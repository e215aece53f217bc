import EntityStore.Text.CaseTable

/-!
# Letter case

Upper case, lower case and capitals of a text, by the full case mappings of Unicode.

* `upper`, `lower` — every character by its full mapping; a capital sigma at the end of a word has
  a lower-case form of its own;
* `capitalize` — the first character in title case, all that follows in lower case;
* `isUpper` — the text has an upper-case character and none of lower or title case.

Characters below `0x80` are mapped by rule and all others by table.
-/

namespace EntityStore.Text

open CaseTable

/-! ### Tables -/

/-- Whether a run holds the code point `n`. -/
def Run.has (r : Run) (n : Nat) : Bool :=
  r.1 ≤ n && n ≤ r.2.1 && (n - r.1) % r.2.2 == 0

/-- The image of `n` under the first shift that holds it. -/
def shifted (shifts : List Shift) (n : Nat) : Option Char :=
  (shifts.find? fun s => Run.has (s.1, s.2.1, s.2.2.1) n).map fun s =>
    Char.ofNat ((n : Int) + s.2.2.2).toNat

/-- The characters that the table lists for `n`. -/
def listed (strings : List (Nat × List Nat)) (n : Nat) : Option (List Char) :=
  (strings.lookup n).map (·.map Char.ofNat)

/-! ### One character -/

/-- Whether `c` has the property Uppercase. -/
def isUpperChar (c : Char) : Bool :=
  if c.val < 0x80 then c.isUpper else upperCase.any (Run.has · c.toNat)

/-- Whether `c` has the property Lowercase. -/
def isLowerChar (c : Char) : Bool :=
  if c.val < 0x80 then c.isLower else lowerCase.any (Run.has · c.toNat)

/-- Whether `c` is a title-case letter. -/
def isTitleChar (c : Char) : Bool :=
  titleCase.any (Run.has · c.toNat)

/-- The full upper-case mapping of a character. -/
def upperChar (c : Char) : List Char :=
  if c.val < 0x80 then [c.toUpper]
  else match shifted upperRuns c.toNat with
    | some d => [d]
    | none => (listed upperStrings c.toNat).getD [c]

/-- The full lower-case mapping of a character that is not a sigma. -/
def lowerChar (c : Char) : List Char :=
  if c.val < 0x80 then [c.toLower]
  else match shifted lowerRuns c.toNat with
    | some d => [d]
    | none => (listed lowerStrings c.toNat).getD [c]

/-- The full title-case mapping of a character. -/
def titleChar (c : Char) : List Char :=
  if c.val < 0x80 then [c.toUpper]
  else match shifted titleRuns c.toNat with
    | some d => [d]
    | none => (listed titleStrings c.toNat).getD (upperChar c)

/-- Whether `c` is passed over when the letter next to a sigma is looked for. -/
def isCaseIgnorable (c : Char) : Bool :=
  ignorable.any (Run.has · c.toNat)

/-- Whether `c` is a letter of some case. -/
def isCased (c : Char) : Bool :=
  isUpperChar c || isLowerChar c || isTitleChar c

/-! ### Texts -/

/-- The upper-case form of a text. -/
def upper (s : List Char) : List Char :=
  s.flatMap upperChar

/-- Whether the first character that is not ignorable is a letter. -/
def meetsLetter (s : List Char) : Bool :=
  match s.dropWhile isCaseIgnorable with
  | [] => false
  | c :: _ => isCased c

/-- The lower-case form of a text that stands behind the reversed text `before`. -/
def lowerAfter (before : List Char) : List Char → List Char
  | [] => []
  | c :: rest =>
    let here :=
      if c == 'Σ' then
        [if meetsLetter before && !meetsLetter rest then 'ς' else 'σ']
      else lowerChar c
    here ++ lowerAfter (c :: before) rest

/-- The lower-case form of a text. -/
def lower (s : List Char) : List Char :=
  lowerAfter [] s

/-- The first character in title case and the others in lower case. -/
def capitalize : List Char → List Char
  | [] => []
  | c :: rest => titleChar c ++ lowerAfter [c] rest

/-- Whether a text has an upper-case character and none of lower or title case. -/
def isUpper (s : List Char) : Bool :=
  s.any isUpperChar && s.all fun c => !(isLowerChar c || isTitleChar c)

end EntityStore.Text
