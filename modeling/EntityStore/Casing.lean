import EntityStore.Text.Blank
import EntityStore.Text.Case

/-!
# Casings of identifiers

Field and member names are written in one convention and stored in another. An identifier is cut
into words, and a casing joins the words again.

* `splitWords` — the words of an identifier: it is cut at underscores, hyphens and blanks, and
  between a small ASCII letter or digit and a capital ASCII letter;
* `Casing` — the eight conventions, with their spellings;
* `Casing.apply` — the identifier in a casing.
-/

namespace EntityStore

/-! ### Words of an identifier -/

/-- Whether a word ends between `a` and `b`. -/
def isBoundary (a b : Char) : Bool :=
  (a.isLower || a.isDigit) && b.isUpper

/-- The text with underscores and hyphens as blanks, and a blank at every boundary. -/
def spaced : List Char → List Char
  | [] => []
  | c :: rest =>
    let here := if c == '_' || c == '-' then ' ' else c
    match rest with
    | [] => [here]
    | d :: _ => if isBoundary c d then here :: ' ' :: spaced rest else here :: spaced rest

/-- The words of an identifier. -/
def splitWords (identifier : List Char) : List (List Char) :=
  Text.words (spaced identifier)

/-! ### Conventions -/

/-- The conventions for writing an identifier. -/
inductive Casing
  | lower | upper | camel | pascal | snake | screamingSnake | kebab | screamingKebab
  deriving DecidableEq, Repr

namespace Casing

/-- All casings, in the order in which a spelling is looked up. -/
def all : List Casing :=
  [lower, upper, camel, pascal, snake, screamingSnake, kebab, screamingKebab]

/-- The conventional spelling, written in the convention itself. -/
def spelling : Casing → String
  | lower => "lowercase"
  | upper => "UPPERCASE"
  | camel => "camelCase"
  | pascal => "PascalCase"
  | snake => "snake_case"
  | screamingSnake => "SCREAMING_SNAKE_CASE"
  | kebab => "kebab-case"
  | screamingKebab => "SCREAMING-KEBAB-CASE"

/-- The name of the convention. -/
def name : Casing → String
  | lower => "LOWER"
  | upper => "UPPER"
  | camel => "CAMEL"
  | pascal => "PASCAL"
  | snake => "SNAKE"
  | screamingSnake => "SCREAMING_SNAKE"
  | kebab => "KEBAB"
  | screamingKebab => "SCREAMING_KEBAB"

/-- The casing of a spelling, or of a name in any letter case. -/
def ofText? (s : String) : Option Casing :=
  all.find? fun c => c.spelling == s || c.name.toList == Text.upper s.toList

/-- A word with a capital at its start. Only a word without small letters is made small
behind it. -/
def capitalizeWord (word : List Char) : List Char :=
  if Text.isUpper word then Text.capitalize word
  else match word with
    | [] => []
    | c :: rest => Text.upperChar c ++ rest

/-- Words joined by a separator. -/
def join (separator : Char) : List (List Char) → List Char :=
  List.intercalate [separator]

/-- A list of words in a casing that works by words. -/
def joinWords (c : Casing) (words : List (List Char)) : List Char :=
  match c with
  | lower | upper => words.flatten
  | camel =>
    match words with
    | [] => []
    | w :: ws => Text.lower w ++ ws.flatMap capitalizeWord
  | pascal => words.flatMap capitalizeWord
  | snake => join '_' (words.map Text.lower)
  | screamingSnake => join '_' (words.map Text.upper)
  | kebab => join '-' (words.map Text.lower)
  | screamingKebab => join '-' (words.map Text.upper)

/-- An identifier in a casing. An identifier without words stays as it is. -/
def applyChars (c : Casing) (identifier : List Char) : List Char :=
  match c with
  | lower => Text.lower identifier
  | upper => Text.upper identifier
  | _ =>
    match splitWords identifier with
    | [] => identifier
    | words => joinWords c words

/-- An identifier in a casing. -/
def apply (c : Casing) (identifier : String) : String :=
  String.ofList (applyChars c identifier.toList)

end Casing

end EntityStore
