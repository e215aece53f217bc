import EntityStore.Text.PrintTable

/-!
# Quoted texts

How a text or a byte string is shown inside a message.

* `quoted` — single quotes, or double quotes where the text has single ones and no double ones;
  control characters and unprintable characters as escapes;
* `Bytes` — strings of bytes;
* `quotedBytes` — the same for bytes, with the mark `b` in front and every byte beyond ASCII
  escaped.
-/

namespace EntityStore

/-- A string of bytes. -/
abbrev Bytes := List UInt8

namespace Text

/-- The hexadecimal digit of a value below sixteen. -/
def hexDigit (n : Nat) : Char :=
  if n < 10 then Char.ofNat (0x30 + n) else Char.ofNat (0x61 + (n - 10))

/-- The last `count` hexadecimal digits of `n`. -/
def hexDigits : Nat → Nat → List Char
  | 0, _ => []
  | count + 1, n => hexDigits count (n / 16) ++ [hexDigit (n % 16)]

/-- Whether a character is shown as it is. -/
def isPrintable (c : Char) : Bool :=
  let n := c.toNat
  if n < 0x80 then 0x20 ≤ n && n < 0x7f
  else !PrintTable.unprintable.any fun r => r.1 ≤ n && n ≤ r.2

/-- The quotation mark for a text. -/
def quoteMark (s : List Char) : Char :=
  if s.contains '\'' && !s.contains '"' then '"' else '\''

/-- An unprintable character by its code point, in the shortest of the three forms. -/
def codeEscape (n : Nat) : List Char :=
  if n < 0x100 then '\\' :: 'x' :: hexDigits 2 n
  else if n < 0x10000 then '\\' :: 'u' :: hexDigits 4 n
  else '\\' :: 'U' :: hexDigits 8 n

/-- A character between quotation marks `mark`. -/
def quotedChar (mark c : Char) : List Char :=
  if c == mark || c == '\\' then ['\\', c]
  else if c == '\n' then ['\\', 'n']
  else if c == '\r' then ['\\', 'r']
  else if c == '\t' then ['\\', 't']
  else if isPrintable c then [c]
  else codeEscape c.toNat

/-- A text in quotation marks. -/
def quotedChars (s : List Char) : List Char :=
  let mark := quoteMark s
  mark :: s.flatMap (quotedChar mark) ++ [mark]

/-- A text in quotation marks. -/
def quoted (s : String) : String :=
  String.ofList (quotedChars s.toList)

/-- A byte between quotation marks `mark`. -/
def quotedByte (mark : Char) (b : UInt8) : List Char :=
  if b.toNat < 0x7f then quotedChar mark (Char.ofNat b.toNat) else codeEscape b.toNat

/-- A byte string in quotation marks. -/
def quotedBytes (bytes : Bytes) : String :=
  let mark := quoteMark (bytes.map fun b => Char.ofNat b.toNat)
  String.ofList ('b' :: mark :: bytes.flatMap (quotedByte mark) ++ [mark])

/-- Texts between brackets, separated by commas. -/
def bracketed (left right : String) (items : List String) : String :=
  left ++ ", ".intercalate items ++ right

/-- A list of quoted texts. -/
def quotedList (items : List String) : String :=
  bracketed "[" "]" (items.map quoted)

/-- Bytes in hexadecimal. -/
def hexBytes (bytes : Bytes) : String :=
  String.ofList (bytes.flatMap fun b => hexDigits 2 b.toNat)

end Text

end EntityStore
