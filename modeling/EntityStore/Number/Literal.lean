import EntityStore.Number.Double
import EntityStore.Text.Blank
import EntityStore.Text.Digit

/-!
# Number literals

Reading numbers from text. Digits of every script count, blanks around the number are passed over,
and single underscores may stand between digits.

* `Literal.integer` — an integer in a given base;
* `Literal.double` — a decimal number, rounded to the nearest double.
-/

namespace EntityStore.Literal

/-- Why a text is not a number. -/
inductive Fault
  | malformed
  | tooLong (digits : Nat)
  deriving DecidableEq, Repr

/-- Whether `c` may surround a number. -/
def isPadding (c : Char) : Bool :=
  if c.val < 0x80 then c == ' ' || (0x9 ≤ c.toNat && c.toNat ≤ 0xd) else Text.isBlank c

/-- A character in ASCII: a digit of another script is written as its value. -/
def plain (c : Char) : Char :=
  if c.val < 0x80 then c
  else match Text.digitValue? c with
    | some v => Char.ofNat (48 + v)
    | none => '?'

/-- The text of a number in ASCII, without the padding. -/
def normalize (s : List Char) : List Char :=
  (((s.dropWhile isPadding).reverse.dropWhile isPadding).reverse).map plain

/-- The value of a digit or letter as a digit of a base up to 36. -/
def value? (base : Nat) (c : Char) : Option Nat :=
  let v :=
    if c.isDigit then some (c.toNat - 48)
    else if c.isLower then some (c.toNat - 87)
    else if c.isUpper then some (c.toNat - 55)
    else none
  v.filter (· < base)

/-- The longest run of digits with single underscores between them, and what follows it. -/
def digitRun (base : Nat) : List Char → List Nat × List Char
  | [] => ([], [])
  | '_' :: c :: rest =>
    match value? base c with
    | some v => let (vs, tail) := digitRun base rest; (v :: vs, tail)
    | none => ([], '_' :: c :: rest)
  | c :: rest =>
    match value? base c with
    | some v => let (vs, tail) := digitRun base rest; (v :: vs, tail)
    | none => ([], c :: rest)

/-- The number with given digits. -/
def ofDigits (base : Nat) (vs : List Nat) : Nat :=
  vs.foldl (fun n v => n * base + v) 0

/-- A sign and what follows it. -/
def sign : List Char → Bool × List Char
  | '-' :: rest => (true, rest)
  | '+' :: rest => (false, rest)
  | rest => (false, rest)

/-- The letter that may follow a zero at the start of a number in a base. -/
def baseLetter? : Nat → Option Char
  | 2 => some 'b'
  | 8 => some 'o'
  | 16 => some 'x'
  | _ => none

/-- The text behind the mark of the base, which one underscore may follow. -/
def dropBaseMark (base : Nat) : List Char → List Char
  | '0' :: c :: rest =>
    if baseLetter? base == some c.toLower then
      match rest with
      | '_' :: more => more
      | _ => rest
    else '0' :: c :: rest
  | s => s

/-- The largest number of digits that is converted from a base that is no power of two. -/
def digitLimit : Nat := 4300

/-- The integer that a text denotes in a base. -/
def integer (base : Nat) (s : List Char) : Except Fault Int :=
  let (negative, body) := sign (normalize s)
  let digits := dropBaseMark base body
  match digits with
  | '_' :: _ => .error .malformed
  | _ =>
    let (vs, tail) := digitRun base digits
    if vs.isEmpty then .error .malformed
    else if base != 2 && base != 8 && base != 16 && digitLimit < vs.length then
      .error (.tooLong vs.length)
    else if !tail.isEmpty then .error .malformed
    else
      let n : Int := ofDigits base vs
      .ok (if negative then -n else n)

/-- The double nearest to `m * 10 ^ e`, where `m` has at most `size` digits. -/
def scaledDecimal (negative : Bool) (m size : Nat) (e : Int) : Double :=
  if m == 0 then .zero negative
  else if 400 < e + size then .infinity negative
  else if e + size < -400 then .zero negative
  else if e < 0 then .round negative m (Nat.pow 10 e.natAbs)
  else .round negative (m * Nat.pow 10 e.natAbs) 1

/-- The exponent at the end of a decimal number. -/
def exponent? (s : List Char) : Option Int :=
  match s with
  | [] => some 0
  | c :: rest =>
    if c.toLower == 'e' then
      let (negative, digits) := sign rest
      match digits with
      | '_' :: _ => none
      | _ =>
        let (vs, tail) := digitRun 10 digits
        if vs.isEmpty || !tail.isEmpty then none
        else
          let n : Int := ofDigits 10 vs
          some (if negative then -n else n)
    else none

/-- The unsigned number that a text in lower case denotes. -/
def magnitude? (negative : Bool) (s : List Char) : Option Double :=
  if s == "inf".toList || s == "infinity".toList then some (.infinity negative)
  else if s == "nan".toList then some .nan
  else match s with
    | '_' :: _ => none
    | _ =>
      let (whole, rest) := digitRun 10 s
      let (part, tail) :=
        match rest with
        | '.' :: '_' :: more => ([], '_' :: more)
        | '.' :: more => digitRun 10 more
        | _ => ([], rest)
      if whole.isEmpty && part.isEmpty then none
      else (exponent? tail).map fun e =>
        let vs := whole ++ part
        scaledDecimal negative (ofDigits 10 vs) vs.length (e - part.length)

/-- The double that a text denotes. -/
def double (s : List Char) : Option Double :=
  let (negative, body) := sign (normalize s)
  magnitude? negative (body.map Char.toLower)

end EntityStore.Literal
