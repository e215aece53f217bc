import EntityStore.Value

/-!
# Documents

The data that a configuration file holds.

* `Atom` — data without parts; every key of a mapping is one;
* `Document` — data of any depth;
* `Document.isTruthy` — whether data counts as true;
* `Document.form` — the written form.
-/

namespace EntityStore

/-- Data without parts. -/
inductive Atom
  | null
  | boolean (b : Bool)
  | integer (n : Int)
  | double (d : Double)
  | text (s : String)
  | bytes (b : Bytes)
  | date (d : Date)
  | dateTime (t : DateTime) (offset : Option Int)

/-- Data of any depth. A collection that holds itself is written out once and then `repeated`. -/
inductive Document
  | atom (a : Atom)
  | list (items : List Document)
  | pairs (items : List (Document × Document))
  | set (items : List Atom)
  | mapping (entries : List (Atom × Document))
  | repeated (isList : Bool)

instance : Inhabited Document := ⟨.atom .null⟩

/-! ### Written forms -/

/-- The last `width` decimal digits of a number. -/
def paddedDigits : Nat → Nat → List Char
  | 0, _ => []
  | width + 1, n => paddedDigits width (n / 10) ++ [Char.ofNat (48 + n % 10)]

/-- The text of a number with at least `width` digits. -/
def padded (width n : Nat) : String :=
  String.ofList (paddedDigits width n)

/-- A date as text. -/
def Date.text (d : Date) : String :=
  padded 4 d.year ++ "-" ++ padded 2 d.month ++ "-" ++ padded 2 d.day

/-- The written form of a date. -/
def Date.form (d : Date) : String :=
  Text.bracketed "datetime.date(" ")" ([d.year, d.month, d.day].map toString)

/-- A time of day as text. -/
def TimeOfDay.text (t : TimeOfDay) : String :=
  padded 2 t.hour ++ ":" ++ padded 2 t.minute ++ ":" ++ padded 2 t.second ++
    (if t.microsecond == 0 then "" else "." ++ padded 6 t.microsecond)

/-- An offset in seconds as hours and minutes behind a sign. -/
def offsetText (seconds : Int) : String :=
  let minutes := seconds.natAbs / 60
  (if seconds < 0 then "-" else "+") ++ padded 2 (minutes / 60) ++ ":" ++ padded 2 (minutes % 60)

/-- The written form of a zone. -/
def zoneForm (seconds : Int) : String :=
  if seconds == 0 then "tzinfo=datetime.timezone.utc"
  else "tzinfo=datetime.timezone(" ++ spanText seconds ++ ")"

namespace Atom

/-- The written form. -/
def form : Atom → String
  | null => "None"
  | boolean b => boolText b
  | integer n => toString n
  | double d => d.text
  | text s => Text.quoted s
  | bytes b => Text.quotedBytes b
  | date d => d.form
  | dateTime t none => t.form
  | dateTime t (some offset) => t.formWith [zoneForm offset]

/-- The text by which data is named. -/
def label : Atom → String
  | text s => s
  | date d => d.text
  | dateTime t offset =>
    t.date.text ++ " " ++ t.time.text ++ (offset.map offsetText).getD ""
  | a => a.form

/-- Whether data counts as true: nothing, zero and empty texts do not. -/
def isTruthy : Atom → Bool
  | null => false
  | boolean b => b
  | integer n => n != 0
  | double d => !d.isZero
  | text s => !s.isEmpty
  | bytes b => !b.isEmpty
  | date _ | dateTime _ _ => true

/-- The number that data is equal to, where it is an integer or a truth value. -/
def integer? : Atom → Option Int
  | boolean b => some (if b then 1 else 0)
  | integer n => some n
  | _ => none

/-- Whether two keys are the same. Numbers are compared by value. -/
def same (a b : Atom) : Bool :=
  match a.integer?, b.integer? with
  | some m, some n => m == n
  | some m, none => match b with
    | double d => d.equalsInt m
    | _ => false
  | none, some n => match a with
    | double d => d.equalsInt n
    | _ => false
  | none, none =>
    match a, b with
    | null, null => true
    | double d, double e => d.equals e || (d.isNaN && e.isNaN)
    | text s, text t => s == t
    | bytes x, bytes y => x == y
    | date d, date e => d == e
    | dateTime t none, dateTime u none => t == u
    | dateTime t (some o), dateTime u (some p) =>
      t.seconds - o == u.seconds - p && t.micros == u.micros
    | _, _ => false

end Atom

namespace Document

/-- Whether data counts as true: collections do unless they are empty. -/
def isTruthy : Document → Bool
  | atom a => a.isTruthy
  | list items => !items.isEmpty
  | pairs items => !items.isEmpty
  | set items => !items.isEmpty
  | mapping entries => !entries.isEmpty
  | repeated _ => true

mutual

/-- The written form. -/
def form : Document → String
  | atom a => a.form
  | list items => Text.bracketed "[" "]" (itemForms items)
  | pairs items => Text.bracketed "[" "]" (pairForms items)
  | set items =>
    if items.isEmpty then "set()" else Text.bracketed "\x7b" "\x7d" (items.map Atom.form)
  | mapping entries => Text.bracketed "\x7b" "\x7d" (entryForms entries)
  | repeated isList => if isList then "[...]" else "\x7b...\x7d"

/-- The written forms of items. -/
def itemForms : List Document → List String
  | [] => []
  | d :: rest => form d :: itemForms rest

/-- The written forms of pairs. -/
def pairForms : List (Document × Document) → List String
  | [] => []
  | (a, b) :: rest => ("(" ++ form a ++ ", " ++ form b ++ ")") :: pairForms rest

/-- The written forms of entries. -/
def entryForms : List (Atom × Document) → List String
  | [] => []
  | (k, d) :: rest => (k.form ++ ": " ++ form d) :: entryForms rest

end

/-- Entries with a new one. The same key keeps its place and takes the new data. -/
def assign (key : Atom) (d : Document) : List (Atom × Document) → List (Atom × Document)
  | [] => [(key, d)]
  | (k, e) :: rest => if k.same key then (k, d) :: rest else (k, e) :: assign key d rest

/-- The mapping with given entries. A later entry replaces an earlier one. -/
def ofEntries (entries : List (Atom × Document)) : Document :=
  mapping (entries.foldl (fun done e => assign e.1 e.2 done) [])

/-- The set of given items, each once. -/
def ofItems (items : List Atom) : Document :=
  set (items.foldl (fun done a => if done.any (·.same a) then done else done ++ [a]) [])

/-- What stands under a name in entries. -/
def find? (name : String) (entries : List (Atom × Document)) : Option Document :=
  (entries.find? fun e => e.1.same (.text name)).map (·.2)

/-- Whether entries have no other key than a name. -/
def hasOnly (name : String) (entries : List (Atom × Document)) : Bool :=
  entries.all fun e => e.1.same (.text name)

end Document

end EntityStore
