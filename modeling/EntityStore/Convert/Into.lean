import EntityStore.Schema

/-!
# Conversion into values

* `intoValue` — the value of an object. Records become entities under the wire names of their
  fields, members of enums become strings, and date-times with a zone are moved to UTC;
* `intoProperties` — the properties of an object that becomes an entity;
* `intoEntity` — the entity that is meant by an entity or by a pair of a key and properties.
-/

namespace EntityStore

namespace Schema

/-- The value of a record, from the values of its attributes. -/
def recordValue (s : Schema) (type : String) (values : List (String × Outcome Value)) :
    Outcome Value :=
  match (s.record? type).bind fun r => r.casing?.map (r, ·) with
  | none => .error (.type (.notConvertible type))
  | some (r, casing) => do
    let fields ← s.recordFields r casing
    let properties ← fields.mapM fun f =>
      match values.lookup f.name with
      | some v => v.map (f.wireName, ·)
      | none => .error .missingAttribute
    return .entity (assignAll properties)

/-- The value of a member of an enum. -/
def memberValue (s : Schema) (type member : String) : Outcome Value :=
  match (s.enum? type).bind (·.wireName? member) with
  | some wire => .ok (.string wire)
  | none => .error (.type (.notConvertible type))

end Schema

/-- The value of a date-time, in UTC where it has a zone. -/
def DateTime.intoValue (t : DateTime) (offset : Option Int) : Outcome Value :=
  match offset with
  | none => .ok (.timestamp t)
  | some seconds =>
    match t.shift? (-seconds) with
    | some u => .ok (.timestamp u)
    | none => .error .overflow

variable (s : Schema)

mutual

/-- The value of an object. -/
def intoValue : Native → Outcome Value
  | .null => .ok .null
  | .boolean b => .ok (.boolean b)
  | .integer n => Value.ofInt n
  | .derivedInteger n => Value.ofInt n
  | .double d => .ok (.double d)
  | .string t => .ok (.string t)
  | .derivedString t => .ok (.string t)
  | .binary _ b => .ok (.blob b)
  | .dateTime t offset => t.intoValue offset
  | .key k => .ok (.key k)
  | .geoPoint p => .ok (.geoPoint p)
  | .mapping _ entries => (intoEntries entries).map .entity
  | .list items => (intoItems items).map .array
  | .tuple items => (intoItems items).map .array
  | .value v => .ok v
  | .converter v => .ok v
  | .record type fields => s.recordValue type (intoFields fields)
  | .enum type member => s.memberValue type member
  | .entity _ => .error (.type (.notConvertible "Entity"))
  | .keyless => .error (.type (.notConvertible "Entity"))
  | .recordType _ => .error (.type (.notConvertible "type"))
  | .other type => .error (.type (.notConvertible type))

/-- The properties of a mapping. -/
def intoEntries : List (Native × Native) → Outcome (List (String × Value))
  | [] => .ok []
  | (name, item) :: rest =>
    match name.string? with
    | none => .error (.type (.propertyName name.typeName))
    | some n =>
      match intoValue item with
      | .error e => .error e
      | .ok v => (intoEntries rest).map ((n, v) :: ·)

/-- The values of the items of a list. -/
def intoItems : List Native → Outcome (List Value)
  | [] => .ok []
  | item :: rest =>
    match intoValue item with
    | .error e => .error e
    | .ok v => (intoItems rest).map (v :: ·)

/-- What comes of the attributes of a record, each by itself. -/
def intoFields : List (String × Native) → List (String × Outcome Value)
  | [] => []
  | (name, n) :: rest => (name, intoValue n) :: intoFields rest

end

/-- The properties of an object, which must become an entity. -/
def intoProperties (n : Native) : Outcome (List (String × Value)) := do
  match ← intoValue s n with
  | .entity properties => return properties
  | v => .error (.unexpected "entity" v.label)

/-- The entity with a key and the properties of an object. -/
def Entity.make (key : Key) (n : Native) : Outcome Entity :=
  (intoProperties s n).map (⟨key, ·⟩)

/-- The entity that an object stands for. -/
def intoEntity : Native → Outcome Entity
  | .entity e => .ok e
  | .keyless => .error .missingAttribute
  | .tuple [.key k, n] => Entity.make s k n
  | n => .error (.type (.notEntity n.typeName))

end EntityStore
