import EntityStore.Number.Literal
import EntityStore.Yaml.Scalar

/-!
# Tags

A tag tells what a node denotes. A plain scalar without a tag has the tag that its text suggests.

* `Timestamp.read?` — the date and time that a text denotes;
* `Tag.ofUri` — the tag with a name;
* `Tag.ofPlain` — the tag of a plain scalar.
-/

namespace EntityStore.Yaml

/-! ### Words and fields -/

/-- The fields between separators. -/
def fields (separator : Char) : List Char → List (List Char)
  | [] => [[]]
  | c :: rest =>
    if c == separator then [] :: fields separator rest
    else match fields separator rest with
      | field :: more => (c :: field) :: more
      | [] => [[c]]

/-- The text without underscores. -/
def dropUnderscores (cs : List Char) : List Char := cs.filter (· != '_')

/-- The text behind a sign, if it starts with one. -/
def dropSign : List Char → List Char
  | c :: rest => if c == '-' || c == '+' then rest else c :: rest
  | [] => []

/-- Whether `c` is a digit or an underscore. -/
def isDigitOrBlank (c : Char) : Bool := c.isDigit || c == '_'

/-- The number that decimal digits denote. -/
def decimal (cs : List Char) : Nat := Literal.ofDigits 10 (cs.map fun c => c.toNat - 48)

/-! ### Dates and times -/

/-- A time of day with the digits of a fraction of a second, and an offset in seconds. -/
structure ClockTime where
  hour : Nat
  minute : Nat
  second : Nat
  fraction : List Char
  offset : Option Int

/-- A date, with or without a time. -/
structure Timestamp where
  year : Nat
  month : Nat
  day : Nat
  time : Option ClockTime

namespace Timestamp

/-- A number of at least `least` and at most `most` digits, and what follows it. -/
def number? (least most : Nat) (cs : List Char) : Option (Nat × List Char) :=
  let digits := (cs.take most).takeWhile Char.isDigit
  if digits.length < least then none else some (decimal digits, cs.drop digits.length)

/-- What follows a character. -/
def behind? (c : Char) : List Char → Option (List Char)
  | d :: rest => if d == c then some rest else none
  | [] => none

/-- The offset at the end of a time; blanks may stand in front of it. -/
def offset? (cs : List Char) : Option (Option Int) :=
  if cs.isEmpty then some none
  else match cs.dropWhile fun c => c == ' ' || c == '\t' with
    | ['Z'] => some (some 0)
    | c :: rest =>
      if c == '-' || c == '+' then do
        let (hours, rest) ← number? 1 2 rest
        let minutes ←
          if rest.isEmpty then some 0
          else do
            let (minutes, rest) ← number? 2 2 (← behind? ':' rest)
            if rest.isEmpty then some minutes else none
        let seconds : Int := hours * 3600 + minutes * 60
        return some (if c == '-' then -seconds else seconds)
      else none
    | [] => none

/-- The time behind a date. -/
def time? (cs : List Char) : Option ClockTime := do
  let (hour, cs) ← number? 1 2 cs
  let (minute, cs) ← number? 2 2 (← behind? ':' cs)
  let (second, cs) ← number? 2 2 (← behind? ':' cs)
  let (fraction, cs) := match behind? '.' cs with
    | some cs => (cs.takeWhile Char.isDigit, cs.dropWhile Char.isDigit)
    | none => ([], cs)
  return ⟨hour, minute, second, fraction, ← offset? cs⟩

/-- The date and time that a text denotes. -/
def read? (cs : List Char) : Option Timestamp := do
  let (year, cs) ← number? 4 4 cs
  let (month, cs) ← number? 1 2 (← behind? '-' cs)
  let (day, cs) ← number? 1 2 (← behind? '-' cs)
  match cs with
  | [] => return ⟨year, month, day, none⟩
  | c :: rest =>
    if c == 'T' || c == 't' then return ⟨year, month, day, some (← time? rest)⟩
    else if c == ' ' || c == '\t' then
      let cs := rest.dropWhile fun c => c == ' ' || c == '\t'
      return ⟨year, month, day, some (← time? cs)⟩
    else none

/-- Whether a plain text denotes a date or time: a date alone has two digits for month and day. -/
def isPlain (cs : List Char) : Bool :=
  match read? cs with
  | some t => t.time.isSome || cs.length == 10
  | none => false

end Timestamp

/-! ### Numbers -/

/-- Whether a field counts units of which sixty make the next one. -/
def isSixtieth : List Char → Bool
  | [a] => a.isDigit
  | [a, b] => '0' ≤ a && a ≤ '5' && b.isDigit
  | _ => false

/-- Whether a text is a digit followed by digits and underscores. -/
def isDigits : List Char → Bool
  | c :: rest => c.isDigit && rest.all isDigitOrBlank
  | [] => false

/-- Whether a text is a number in base sixty with a first field that has a property. -/
def isSexagesimal (first : List Char → Bool) (cs : List Char) : Bool :=
  match fields ':' cs with
  | head :: rest => first head && !rest.isEmpty && rest.all isSixtieth
  | [] => false

/-- Whether a plain text denotes an integer. -/
def isInteger (cs : List Char) : Bool :=
  let startsHigh := fun (cs : List Char) => isDigits cs && cs.head? != some '0'
  match dropSign cs with
  | ['0'] => true
  | '0' :: 'b' :: rest => !rest.isEmpty && rest.all fun c => c == '0' || c == '1' || c == '_'
  | '0' :: 'x' :: rest => !rest.isEmpty && rest.all fun c => (hexValue? c).isSome || c == '_'
  | '0' :: rest => rest.all fun c => ('0' ≤ c && c ≤ '7') || c == '_'
  | cs => startsHigh cs || isSexagesimal startsHigh cs

/-- Whether a text is empty or a signed exponent. -/
def isExponent : List Char → Bool
  | [] => true
  | e :: sign :: digits =>
    (e == 'e' || e == 'E') && (sign == '-' || sign == '+') && !digits.isEmpty &&
      digits.all Char.isDigit
  | _ => false

/-- Whether a plain text denotes a number with a point, an infinity or the value that is no
number. -/
def isDouble (cs : List Char) : Bool :=
  let body := dropSign cs
  let whole := body.takeWhile (· != '.')
  match body.dropWhile (· != '.') with
  | _ :: part =>
    (isDigits whole && isExponent (part.dropWhile isDigitOrBlank)) ||
      (isSexagesimal isDigits whole && part.all isDigitOrBlank) ||
      (whole.isEmpty && [".inf", ".Inf", ".INF"].any (·.toList == body)) ||
      (cs.head? == some '.' && part.head?.any Char.isDigit &&
        isExponent (part.dropWhile isDigitOrBlank)) ||
      [".nan", ".NaN", ".NAN"].any (·.toList == cs)
  | [] => false

/-! ### Tags -/

/-- What a node denotes. The marks of a merged mapping and of a default value have no meaning as
values. -/
inductive Tag
  | null
  | boolean
  | integer
  | double
  | text
  | bytes
  | timestamp
  | list
  | mapping
  | set
  | orderedMapping
  | pairs
  | merge
  | defaultValue
  | unknown
  deriving DecidableEq

namespace Tag

/-- The words for truth values, in lower case. -/
def truthWords : List (String × Bool) :=
  [("yes", true), ("no", false), ("true", true), ("false", false), ("on", true), ("off", false)]

/-- Whether a text is a word in lower case, capitalized or in upper case. -/
def isSpelling (word : String) (cs : List Char) : Bool :=
  let w := word.toList
  cs == w || cs == w.map Char.toUpper ||
    match w with
    | c :: rest => cs == c.toUpper :: rest
    | [] => false

/-- The tags of the standard by their names. -/
def standard : List (String × Tag) :=
  [("null", null), ("bool", boolean), ("int", integer), ("float", double), ("str", text),
    ("binary", bytes), ("timestamp", timestamp), ("seq", list), ("map", mapping), ("set", set),
    ("omap", orderedMapping), ("pairs", pairs), ("merge", merge), ("value", defaultValue)]

/-- The start of the names of the standard. -/
def standardStart : String := "tag:yaml.org,2002:"

/-- The tag with a name. -/
def ofUri (uri : String) : Tag :=
  match standard.find? fun t => standardStart ++ t.1 == uri with
  | some t => t.2
  | none => unknown

/-- The tag of a plain line. -/
def ofLine (cs : List Char) : Tag :=
  if truthWords.any fun w => isSpelling w.1 cs then boolean
  else if isDouble cs then double
  else if isInteger cs then integer
  else if cs == ['<', '<'] then merge
  else if cs.isEmpty || cs == ['~'] || isSpelling "null" cs then null
  else if Timestamp.isPlain cs then timestamp
  else if cs == ['='] then defaultValue
  else if cs == ['!'] || cs == ['&'] || cs == ['*'] then unknown
  else text

/-- A text without the line break at its end. -/
def withoutBreak (cs : List Char) : List Char :=
  if cs.getLast? == some '\n' then cs.dropLast else cs

/-- The tag of a plain scalar. One line break at the end does not count. -/
def ofPlain (s : String) : Tag :=
  if s == "\n" then text else ofLine (withoutBreak s.toList)

end Tag

end EntityStore.Yaml
