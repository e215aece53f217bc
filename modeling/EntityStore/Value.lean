import EntityStore.Key
import EntityStore.Number.Shortest

/-!
# Values

Everything that a property of an entity can hold.

* `Value` — the variants, nested to any depth;
* `Value.label` — the name of the variant in messages;
* `Value.equal` — equality: the order of properties does not count, nor do the marks of keys;
* `Value.erase` — the value with all wrappers of optional values removed;
* `Value.text` — the written form.
-/

namespace EntityStore

/-- A point on Earth in degrees. -/
structure GeoPoint where
  latitude : Double
  longitude : Double
  deriving DecidableEq

/-- A value. `bare` is a value of no variant, `null` an optional value that is absent, and `wrapped`
one that is present. -/
inductive Value
  | bare
  | null
  | wrapped (inner : Value)
  | boolean (b : Bool)
  | integer (n : Int64)
  | double (d : Double)
  | timestamp (t : DateTime)
  | key (k : Key)
  | string (s : String)
  | blob (b : Bytes)
  | geoPoint (p : GeoPoint)
  | entity (properties : List (String × Value))
  | array (items : List Value)

/-- The variants that a value can be asked for. -/
inductive Variant
  | option | boolean | integer | double | timestamp | key | string | blob | geoPoint | entity
  | array
  deriving DecidableEq

/-- The name of a variant in messages. -/
def Variant.label : Variant → String
  | option => "option"
  | boolean => "bool"
  | integer => "integer"
  | double => "double"
  | timestamp => "timestamp"
  | key => "key"
  | string => "string"
  | blob => "blob"
  | geoPoint => "geopoint"
  | entity => "entity"
  | array => "array"

/-- An association list with `name` bound to `a`, at its first place if it has one. -/
def assign {α : Type} (name : String) (a : α) : List (String × α) → List (String × α)
  | [] => [(name, a)]
  | (n, b) :: rest => if n == name then (n, a) :: rest else (n, b) :: assign name a rest

/-- An association list without `name`. -/
def unassign {α : Type} (name : String) (entries : List (String × α)) : List (String × α) :=
  entries.filter (·.1 != name)

/-- The association list of a list in which names may be repeated: the last of them counts. -/
def assignAll {α : Type} (entries : List (String × α)) : List (String × α) :=
  entries.foldl (fun done e => assign e.1 e.2 done) []

/-- What two compared objects have in common: nothing, or the parts at equal places. Not-a-numbers
and values of no variant are equal only to themselves, so they are equal in shared parts alone. The
third comparison takes doubles by their bits, with all not-a-numbers as one. -/
inductive Comparison
  | apart | shared | bits
  deriving DecidableEq

/-- Whether two doubles at equal places are equal. -/
def Comparison.doubles : Comparison → Double → Double → Bool
  | apart => Double.equals
  | shared => Double.alike
  | bits => fun a b => a.canonical == b.canonical

namespace Value

/-! ### Variants -/

/-- The variant of a value that has one. -/
def variant? : Value → Option Variant
  | bare => none
  | null | wrapped _ => some .option
  | boolean _ => some .boolean
  | integer _ => some .integer
  | double _ => some .double
  | timestamp _ => some .timestamp
  | key _ => some .key
  | string _ => some .string
  | blob _ => some .blob
  | geoPoint _ => some .geoPoint
  | entity _ => some .entity
  | array _ => some .array

/-- The name of the variant in messages. -/
def label (v : Value) : String :=
  match v.variant? with
  | some variant => variant.label
  | none => "value"

/-- The value that holds an integer, if it fits in 64 bits. -/
def ofInt (n : Int) : Outcome Value :=
  if fitsInt64 n then .ok (integer (.ofInt n)) else .error (.value (.integerRange n))

/-! ### Equality -/

mutual

/-- Whether two values are equal. -/
def equal (c : Comparison) : Value → Value → Bool
  | bare, bare => c == .shared
  | null, null => true
  | wrapped a, wrapped b => equal c a b
  | boolean a, boolean b => a == b
  | integer a, integer b => a == b
  | double a, double b => c.doubles a b
  | timestamp a, timestamp b => a == b
  | key a, key b => a.same b
  | string a, string b => a == b
  | blob a, blob b => a == b
  | geoPoint a, geoPoint b => c.doubles a.latitude b.latitude && c.doubles a.longitude b.longitude
  | entity a, entity b => a.length == b.length && equalFields c a b
  | array a, array b => equalItems c a b
  | _, _ => false

/-- Whether every property on the left has an equal one on the right. -/
def equalFields (c : Comparison) :
    List (String × Value) → List (String × Value) → Bool
  | [], _ => true
  | (name, v) :: rest, fields =>
    (match fields.lookup name with
      | some w => equal c v w
      | none => false) && equalFields c rest fields

/-- Whether two lists have equal items. -/
def equalItems (c : Comparison) : List Value → List Value → Bool
  | [], [] => true
  | a :: as, b :: bs => equal c a b && equalItems c as bs
  | _, _ => false

end

/-! ### Wrappers -/

mutual

/-- The value without wrappers, at every depth. -/
def erase : Value → Value
  | wrapped v => erase v
  | entity fields => entity (eraseFields fields)
  | array items => array (eraseItems items)
  | v => v

/-- Properties without wrappers. -/
def eraseFields : List (String × Value) → List (String × Value)
  | [] => []
  | (name, v) :: rest => (name, erase v) :: eraseFields rest

/-- Items without wrappers. -/
def eraseItems : List Value → List Value
  | [] => []
  | v :: rest => erase v :: eraseItems rest

end

end Value

/-! ### Written forms -/

/-- A truth value, written. -/
def boolText (b : Bool) : String :=
  if b then "True" else "False"

/-- An optional text in quotation marks, or the word for its absence. -/
def optionalText (s : Option String) : String :=
  match s with
  | some s => Text.quoted s
  | none => "None"

/-- The written form of an identifier. -/
def KeyId.form : Option KeyId → String
  | none => "None"
  | some (.number n) => toString n.toInt
  | some (.name s) => Text.quoted s

/-- A key below a parent that is written already. -/
def Key.formWith (parent : String) (ns : Option String) (s : Segment) : String :=
  Text.bracketed "Key(" ")" [
    "kind=" ++ Text.quoted s.kind,
    "id=" ++ KeyId.form s.id,
    "parent=" ++ parent,
    "namespace=" ++ optionalText ns,
    "is_new=" ++ boolText s.isNew,
    "is_deleted=" ++ boolText s.isDeleted]

/-- The written form of a key, with all its parts. -/
def Key.form : Key → String
  | root ns s => formWith "None" ns s
  | child p ns s => formWith (form p) ns s

/-- The numbers of a date-time, without seconds and microseconds that are zero at the end. -/
def DateTime.parts (t : DateTime) : List Nat :=
  let d := t.date
  let c := t.time
  [d.year, d.month, d.day, c.hour, c.minute] ++
    (if c.microsecond != 0 then [c.second, c.microsecond]
     else if c.second != 0 then [c.second] else [])

/-- The written form of a date-time, with its zone if it is given. -/
def DateTime.formWith (t : DateTime) (zone : List String) : String :=
  Text.bracketed "datetime.datetime(" ")" (t.parts.map toString ++ zone)

/-- The written form of a date-time. -/
def DateTime.form (t : DateTime) : String :=
  t.formWith []

namespace Value

mutual

/-- The written form of a value. -/
def form : Value → String
  | bare => "Value()"
  | null => "OptionValue(inner=None)"
  | wrapped v => "OptionValue(inner=" ++ form v ++ ")"
  | boolean b => "BooleanValue(value=" ++ boolText b ++ ")"
  | integer n => "IntegerValue(value=" ++ toString n.toInt ++ ")"
  | double d => "DoubleValue(value=" ++ d.text ++ ")"
  | timestamp t => "TimestampValue(value=" ++ t.form ++ ")"
  | key k => "KeyValue(value=" ++ k.form ++ ")"
  | string s => "StringValue(value=" ++ Text.quoted s ++ ")"
  | blob b => "BlobValue(value=" ++ Text.quotedBytes b ++ ")"
  | geoPoint p =>
    "GeoPointValue(latitude=" ++ p.latitude.text ++ ", longitude=" ++ p.longitude.text ++ ")"
  | entity fields =>
    "EntityValue(properties=" ++ Text.bracketed "\x7b" "\x7d" (fieldForms fields) ++ ")"
  | array items => "ArrayValue(values=" ++ Text.bracketed "[" "]" (itemForms items) ++ ")"

/-- The written forms of properties, each behind its name. -/
def fieldForms : List (String × Value) → List String
  | [] => []
  | (name, v) :: rest => (Text.quoted name ++ ": " ++ form v) :: fieldForms rest

/-- The written forms of items. -/
def itemForms : List Value → List String
  | [] => []
  | v :: rest => form v :: itemForms rest

end

end Value

end EntityStore
