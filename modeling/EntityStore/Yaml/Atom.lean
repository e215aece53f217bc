import EntityStore.Document
import EntityStore.Yaml.Tag

/-!
# Scalars as data

What the text of a scalar denotes under its tag.

* `Tag.isCollection` — whether a tag denotes data with parts;
* `Tag.read` — the data that a scalar denotes.
-/

namespace EntityStore.Yaml

/-! ### Numbers -/

/-- The integer that a text denotes in a base. -/
def readDigits (base : Nat) (cs : List Char) : Parsed Int :=
  match Literal.integer base cs with
  | .ok n => .ok n
  | .error .malformed => .error (.meaningless (.value (.integerText base (String.ofList cs))))
  | .error (.tooLong n) => .error (.meaningless (.value (.integerLength n)))

/-- The sign of a number and the text behind it. -/
def signed (cs : List Char) : Parsed (Bool × List Char) :=
  match cs with
  | [] => .error (.meaningless .missingIndex)
  | '-' :: rest => .ok (true, rest)
  | '+' :: rest => .ok (false, rest)
  | _ => .ok (false, cs)

/-- The integer that a text without a sign denotes. A zero in front means base eight, and colons
separate fields of base sixty. -/
def readMagnitude (cs : List Char) : Parsed Int :=
  match cs with
  | [] => .error (.meaningless .missingIndex)
  | ['0'] => .ok 0
  | '0' :: 'b' :: rest => readDigits 2 rest
  | '0' :: 'x' :: rest => readDigits 16 rest
  | '0' :: _ => readDigits 8 cs
  | _ =>
    if cs.contains ':' then do
      let ns ← (fields ':' cs).mapM (readDigits 10)
      return ns.foldl (fun total n => total * 60 + n) 0
    else readDigits 10 cs

/-- The integer that a text denotes. -/
def readInteger (cs : List Char) : Parsed Int := do
  let (negative, cs) ← signed (dropUnderscores cs)
  let n ← readMagnitude cs
  return if negative then -n else n

/-- The double that decimal digits denote. -/
def readDecimal (cs : List Char) : Parsed Double :=
  match Literal.double cs with
  | some d => .ok d
  | none => .error (.meaningless (.value (.decimalText (String.ofList cs))))

/-- The sum of fields of base sixty, the lowest first. A unit that no double can hold is refused. -/
def sumSixtieths (total : Double) (unit : Int) : List Double → Parsed Double
  | [] => .ok total
  | d :: rest =>
    let u := Double.ofInt unit
    if u.isInfinite then .error (.meaningless .overflow)
    else sumSixtieths (total.add (d.mul u)) (unit * 60) rest

/-- The double that a text denotes. -/
def readDouble (cs : List Char) : Parsed Double := do
  let (negative, cs) ← signed ((dropUnderscores cs).map Char.toLower)
  let d ←
    if cs == ".inf".toList then pure (Double.infinity false)
    else if cs == ".nan".toList then pure Double.nan
    else if cs.contains ':' then do
      let ds ← (fields ':' cs).mapM readDecimal
      sumSixtieths (.zero false) 1 ds.reverse
    else readDecimal cs
  return if negative then d.neg else d

/-! ### Bytes -/

/-- The value of a digit of base 64. -/
def sextet? (c : Char) : Option Nat :=
  if c.isUpper then some (c.toNat - 65)
  else if c.isLower then some (c.toNat - 71)
  else if c.isDigit then some (c.toNat + 4)
  else if c == '+' then some 62
  else if c == '/' then some 63
  else none

/-- The bytes of a text in base 64. `place` counts the digits of the group so far, `left` holds the
bits that are left over, and `pads` counts the equals signs. Other characters are passed over. -/
def base64 (place left pads : Nat) : List Char → Option Bytes
  | [] => if place == 0 then some [] else none
  | c :: rest =>
    if c == '=' then
      if 2 ≤ place then
        if 4 ≤ place + pads + 1 then some [] else base64 place left (pads + 1) rest
      else base64 place left pads rest
    else match sextet? c with
      | none => base64 place left pads rest
      | some v =>
        match place with
        | 0 => base64 1 v 0 rest
        | 1 => (base64 2 (v % 16) 0 rest).map (UInt8.ofNat (left * 4 + v / 16) :: ·)
        | 2 => (base64 3 (v % 4) 0 rest).map (UInt8.ofNat (left * 16 + v / 4) :: ·)
        | _ => (base64 0 0 0 rest).map (UInt8.ofNat (left * 64 + v) :: ·)

/-- The bytes that a text denotes. -/
def readBytes (cs : List Char) : Parsed Bytes :=
  if cs.all (·.val < 0x80) then
    match base64 0 0 0 cs with
    | some bytes => .ok bytes
    | none => .error .malformed
  else .error .malformed

/-! ### Dates and times -/

/-- A result of the calendar. -/
def calendar {α : Type} (r : Except CalendarFault α) : Parsed α :=
  r.mapError fun f => .meaningless (.value (.calendar f))

/-- The first six digits of a fraction of a second. -/
def microseconds (fraction : List Char) : Fin 1000000 :=
  Fin.ofNat 1000000 (decimal ((fraction ++ List.replicate 6 '0').take 6))

/-- The date or date-time that a text denotes. -/
def readTimestamp (cs : List Char) : Parsed Atom :=
  match Timestamp.read? (Tag.withoutBreak cs) with
  | none => .error (.meaningless .missingAttribute)
  | some t =>
    match t.time with
    | none => (calendar (Date.make t.year t.month t.day)).map .date
    | some c => do
      match c.offset with
      | some o => if 86400 ≤ o.natAbs then calendar (.error (.offset o))
      | none => pure ()
      let d ← calendar (Date.make t.year t.month t.day)
      let time ← calendar (TimeOfDay.make c.hour c.minute c.second (microseconds c.fraction))
      return .dateTime ⟨d, time⟩ c.offset

/-! ### All scalars -/

namespace Tag

/-- Whether a tag denotes data with parts. -/
def isCollection : Tag → Bool
  | list | mapping | set | orderedMapping | pairs => true
  | _ => false

/-- The truth value of a word. -/
def readTruth (cs : List Char) : Parsed Bool :=
  match truthWords.find? fun w => w.1.toList == cs.map Char.toLower with
  | some w => .ok w.2
  | none => .error (.meaningless .missingItem)

/-- The data that a scalar with a tag denotes. -/
def read (t : Tag) (s : String) : Parsed Atom :=
  let cs := s.toList
  match t with
  | null => .ok .null
  | boolean => (readTruth cs).map .boolean
  | integer => (readInteger cs).map .integer
  | double => (readDouble cs).map .double
  | text => .ok (.text s)
  | bytes => (readBytes cs).map .bytes
  | timestamp => readTimestamp cs
  | list | mapping | set | orderedMapping | pairs | merge | defaultValue | unknown =>
    .error .malformed

end Tag

end EntityStore.Yaml
