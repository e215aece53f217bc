import EntityStore.Entity

/-!
# Native data

The data of an application, before it is converted into values and after.

* `Native` — what is offered for conversion and what a conversion returns;
* `Native.typeName` — the name of an object's type in messages;
* `Native.equal` — equality: numbers are compared by value, mappings without regard to order;
* `Native.mappingOf` — a mapping, in which the last entry for a name counts.
-/

namespace EntityStore

/-- The kinds of byte buffers. -/
inductive Buffer
  | bytes | mutable | view
  deriving DecidableEq

/-- The kinds of mappings. -/
inductive MappingForm
  | plain | ordered | proxy
  deriving DecidableEq

/-- An object of an application. A `converter` turns itself into a value; `record` and `enum` are
instances of defined types; `keyless` is an entity whose key is none; `other` is an object of a type
that no conversion knows. -/
inductive Native
  | null
  | boolean (b : Bool)
  | integer (n : Int)
  | derivedInteger (n : Int)
  | double (d : Double)
  | string (s : String)
  | derivedString (s : String)
  | binary (form : Buffer) (b : Bytes)
  | dateTime (t : DateTime) (offset : Option Int)
  | key (k : Key)
  | geoPoint (p : GeoPoint)
  | mapping (form : MappingForm) (entries : List (Native × Native))
  | list (items : List Native)
  | tuple (items : List Native)
  | value (v : Value)
  | converter (v : Value)
  | record (type : String) (fields : List (String × Native))
  | enum (type member : String)
  | entity (e : Entity)
  | keyless
  | recordType (name : String)
  | other (type : String)

/-- The variants. -/
def Variant.all : List Variant :=
  [.option, .boolean, .integer, .double, .timestamp, .key, .string, .blob, .geoPoint, .entity,
    .array]

/-- The name of a variant's class in messages. -/
def Variant.className : Variant → String
  | .option => "OptionValue"
  | .boolean => "BooleanValue"
  | .integer => "IntegerValue"
  | .double => "DoubleValue"
  | .timestamp => "TimestampValue"
  | .key => "KeyValue"
  | .string => "StringValue"
  | .blob => "BlobValue"
  | .geoPoint => "GeoPointValue"
  | .entity => "EntityValue"
  | .array => "ArrayValue"

/-- The name of a value's class in messages. -/
def Value.className (v : Value) : String :=
  (v.variant?.map Variant.className).getD "Value"

namespace Native

/-- The name of an object's type in messages. -/
def typeName : Native → String
  | null => "NoneType"
  | boolean _ => "bool"
  | integer _ => "int"
  | derivedInteger _ => "IntEnum"
  | double _ => "float"
  | string _ => "str"
  | derivedString _ => "str"
  | binary .bytes _ => "bytes"
  | binary .mutable _ => "bytearray"
  | binary .view _ => "memoryview"
  | dateTime _ _ => "datetime"
  | key _ => "Key"
  | geoPoint _ => "GeoPoint"
  | mapping .plain _ => "dict"
  | mapping .ordered _ => "OrderedDict"
  | mapping .proxy _ => "mappingproxy"
  | list _ => "list"
  | tuple _ => "tuple"
  | value v => v.className
  | converter _ => "Hook"
  | record type _ => type
  | enum type _ => type
  | entity _ | keyless => "Entity"
  | recordType _ => "type"
  | other type => type

/-- The text of an object that is a string. -/
def string? : Native → Option String
  | string s | derivedString s => some s
  | _ => none

/-- The number that an object is equal to, where it is an integer or a truth value. -/
def integer? : Native → Option Int
  | boolean b => some (if b then 1 else 0)
  | integer n | derivedInteger n => some n
  | _ => none

/-- Whether two objects without parts are equal. -/
def equalScalars (c : Comparison) (a b : Native) : Bool :=
  match a.integer?, b.integer? with
  | some m, some n => m == n
  | some m, none => match b with
    | double d => d.equalsInt m
    | _ => false
  | none, some n => match a with
    | double d => d.equalsInt n
    | _ => false
  | none, none =>
    match a.string?, b.string? with
    | some s, some t => s == t
    | _, _ =>
      match a, b with
      | null, null => true
      | double d, double e => c.doubles d e
      | binary _ x, binary _ y => x == y
      | dateTime t none, dateTime u none => t == u
      | dateTime t (some o), dateTime u (some p) =>
        t.seconds - o == u.seconds - p && t.micros == u.micros
      | key k, key l => k.same l
      | geoPoint p, geoPoint q =>
        c.doubles p.latitude q.latitude && c.doubles p.longitude q.longitude
      | value v, value w => v.equal c w
      | enum e m, enum f n => e == f && m == n
      | entity e, entity f => e.equal c f
      | _, _ => false

mutual

/-- Whether two objects are equal. -/
def equal (c : Comparison) : Native → Native → Bool
  | mapping _ a, mapping _ b => a.length == b.length && equalEntries c a b
  | list a, list b => equalItems c a b
  | tuple a, tuple b => equalItems c a b
  | record s a, record t b => s == t && equalFields c a b
  | a, b => equalScalars c a b

/-- Whether two lists have equal items. -/
def equalItems (c : Comparison) : List Native → List Native → Bool
  | [], [] => true
  | a :: as, b :: bs => equal c a b && equalItems c as bs
  | _, _ => false

/-- Whether every entry on the left has an equal one on the right. -/
def equalEntries (c : Comparison) :
    List (Native × Native) → List (Native × Native) → Bool
  | [], _ => true
  | (k, v) :: rest, entries =>
    (match entries.find? fun e => equalScalars c k e.1 with
      | some e => equal c v e.2
      | none => false) && equalEntries c rest entries

/-- Whether two records have equal fields in the same order. -/
def equalFields (c : Comparison) :
    List (String × Native) → List (String × Native) → Bool
  | [], [] => true
  | (m, a) :: as, (n, b) :: bs => m == n && equal c a b && equalFields c as bs
  | _, _ => false

end

/-- Whether a conversion gave back an object equal to `b`, of which it kept the parts. A number that
stands alone is compared as a number. -/
def returns (a b : Native) : Bool :=
  match a, b with
  | double d, double e => d.equals e
  | a, b => a.equal .shared b

/-- Whether an object can be looked up in a mapping. -/
def isHashable : Native → Bool
  | binary .mutable _ | mapping _ _ | list _ | record _ _ | entity _ | keyless => false
  | other "set" | other "Query" => false
  | _ => true

/-- Entries with a new one. An equal name keeps its place and takes the new object. -/
def assignEntry (name item : Native) : List (Native × Native) → List (Native × Native)
  | [] => [(name, item)]
  | (n, i) :: rest =>
    if equalScalars .apart n name then (n, item) :: rest
    else (n, i) :: assignEntry name item rest

/-- The mapping with given entries. Names that cannot be looked up are refused. -/
def mappingOf (form : MappingForm) (entries : List (Native × Native)) : Outcome Native :=
  if entries.all (·.1.isHashable) then
    .ok (mapping form (entries.foldl (fun done e => assignEntry e.1 e.2 done) []))
  else .error (.type .arguments)

/-- The plain mapping of properties. -/
def ofProperties (entries : List (String × Native)) : Native :=
  mapping .plain (entries.map fun e => (string e.1, e.2))

end Native

end EntityStore
