import EntityStore.Casing
import EntityStore.Native

/-!
# Schemas

Application types that values are read as, and the definitions of records and enums.

* `Target` — what a value is to be read as;
* `RecordType`, `EnumType` — defined types, with the wire names of their fields and members;
* `Schema` — the defined types by name;
* `Schema.defineRecord`, `Schema.defineEnum` — new definitions;
* `Schema.recordFields` — the fields that take part in conversions;
* `Schema.instantiate` — an instance with defaults for what is not given.
-/

namespace EntityStore

/-! ### Targets -/

mutual

/-- What a value is read as: a form, or a form that may be absent. -/
inductive Target
  | plain (form : Form)
  | optional (form : Form)

/-- The forms that a value can be read as. A `label` is the name of the value's variant. -/
inductive Form
  | value
  | any
  | string
  | integer
  | double
  | boolean
  | binary
  | dateTime
  | key
  | geoPoint
  | label
  | variant (v : Variant)
  | list (item : Target)
  | tuple (item : Target)
  | fixed (items : List Target)
  | mapping (item : Target)
  | type (name : String)
  | union (members : List Form)
  | unsupported (name : String)

end

namespace Target

/-- The form, present or not. -/
def form : Target → Form
  | plain f | optional f => f

mutual

/-- Whether two targets are the same. -/
def same : Target → Target → Bool
  | plain f, plain g => sameForm f g
  | optional f, optional g => sameForm f g
  | _, _ => false

/-- Whether two forms are the same. -/
def sameForm : Form → Form → Bool
  | .value, .value | .any, .any | .string, .string | .integer, .integer | .double, .double
  | .boolean, .boolean | .binary, .binary | .dateTime, .dateTime | .key, .key
  | .geoPoint, .geoPoint | .label, .label => true
  | .variant v, .variant w => v == w
  | .list t, .list u => same t u
  | .tuple t, .tuple u => same t u
  | .fixed ts, .fixed us => sameAll ts us
  | .mapping t, .mapping u => same t u
  | .type m, .type n => m == n
  | .union fs, .union gs => sameForms fs gs
  | .unsupported m, .unsupported n => m == n
  | _, _ => false

/-- Whether two lists of targets are the same. -/
def sameAll : List Target → List Target → Bool
  | [], [] => true
  | t :: ts, u :: us => same t u && sameAll ts us
  | _, _ => false

/-- Whether two lists of forms are the same. -/
def sameForms : List Form → List Form → Bool
  | [], [] => true
  | f :: fs, g :: gs => sameForm f g && sameForms fs gs
  | _, _ => false

end

/-- The form of the absent object alone. -/
def nothing : Form := .unsupported "none"

/-- The alternatives of a target: those of a union, and the absent object for an optional form. -/
def alternatives (t : Target) : List Form :=
  match t with
  | plain (.union fs) => fs
  | plain f => [f]
  | optional (.union fs) => fs ++ [nothing]
  | optional f => [f, nothing]

/-- A list of forms without repetitions. -/
def distinct (fs : List Form) : List Form :=
  fs.foldl (fun done f => if done.any (sameForm f ·) then done else done ++ [f]) []

/-- The target that allows what one of several targets allows. -/
def union (ts : List Target) : Target :=
  let fs := distinct (ts.flatMap alternatives)
  let present := fs.filter fun f => !sameForm f nothing
  if present.length == fs.length then
    match present with
    | [f] => plain f
    | fs => plain (.union fs)
  else
    match present with
    | [] => plain nothing
    | [f] => optional f
    | fs => optional (.union fs)

mutual

/-- The names of defined types in a target. -/
def names : Target → List String
  | plain f => formNames f
  | optional f => formNames f

/-- The names of defined types in a form. -/
def formNames : Form → List String
  | .list t => names t
  | .tuple t => names t
  | .fixed ts => listNames ts
  | .mapping t => names t
  | .type name => [name]
  | .union fs => unionNames fs
  | _ => []

/-- The names of defined types in a list of targets. -/
def listNames : List Target → List String
  | [] => []
  | t :: ts => names t ++ listNames ts

/-- The names of defined types in a list of forms. -/
def unionNames : List Form → List String
  | [] => []
  | f :: fs => formNames f ++ unionNames fs

end

end Target

/-! ### Defined types -/

/-- A field of a record. A field that is not given at construction has `isInit` false. -/
structure Field where
  name : String
  type : Target
  rename : Option String
  default? : Option Native
  isInit : Bool

/-- Whether the field has to be given. -/
def Field.isRequired (f : Field) : Bool :=
  f.default?.isNone

/-- The name of the property that stores the field. -/
def Field.wireName (f : Field) (casing : Casing) : String :=
  match f.rename with
  | some "" | none => casing.apply f.name
  | some name => name

/-- A record. Without a casing it takes no part in conversions. `annotations` are all types that the
record and its bases mention. -/
structure RecordType where
  name : String
  casing? : Option Casing
  fields : List Field
  annotations : List Target

/-- An enum: its members with their wire names, and the member that each name stands for. -/
structure EnumType where
  name : String
  members : List (String × String)
  names : List (String × String)

/-- A defined type. -/
inductive Definition
  | record (r : RecordType)
  | enum (e : EnumType)

/-- Defined types by name. -/
abbrev Schema := List (String × Definition)

/-- A field as it takes part in conversions. -/
structure RecordField where
  name : String
  wireName : String
  type : Target
  required : Bool

namespace EnumType

/-- The wire name of a member. -/
def wireName? (e : EnumType) (member : String) : Option String :=
  e.members.lookup member

/-- The member with a wire name, the last one if several have it. -/
def member? (e : EnumType) (wire : String) : Option String :=
  (e.members.reverse.find? (·.2 == wire)).map (·.1)

end EnumType

namespace Schema

/-- The record with a name. -/
def record? (s : Schema) (name : String) : Option RecordType :=
  match s.lookup name with
  | some (.record r) => some r
  | _ => none

/-- The enum with a name. -/
def enum? (s : Schema) (name : String) : Option EnumType :=
  match s.lookup name with
  | some (.enum e) => some e
  | _ => none

/-- The fields of a record that take part in conversions. All types that the record mentions must be
defined. -/
def recordFields (s : Schema) (r : RecordType) (casing : Casing) : Outcome (List RecordField) :=
  if (r.annotations.flatMap Target.names).all fun name => (s.lookup name).isSome then
    .ok ((r.fields.filter (·.isInit)).map fun f =>
      ⟨f.name, f.wireName casing, f.type, f.isRequired⟩)
  else .error .unknownName

/-! ### Definitions -/

/-- A field as it is declared. -/
structure FieldDeclaration where
  name : String
  type : Target
  rename : Option String
  default? : Option Native
  factory? : Option Native
  isInit : Bool

/-- Whether a field is declared with two defaults. -/
def FieldDeclaration.isAmbiguous (d : FieldDeclaration) : Bool :=
  d.default?.isSome && d.factory?.isSome

/-- The field that is declared. A default that can change would be shared by all instances; it is
told by its type, which has no hash. -/
def FieldDeclaration.check (d : FieldDeclaration) : Outcome Field :=
  match d.default? with
  | some v =>
    if v.isHashable then .ok ⟨d.name, d.type, d.rename, some v, d.isInit⟩
    else .error (.value (.sharedDefault v.typeName d.name))
  | none => .ok ⟨d.name, d.type, d.rename, d.factory?, d.isInit⟩

/-- Fields with a new one, which replaces a field of the same name at its place. -/
def addField (f : Field) : List Field → List Field
  | [] => [f]
  | g :: rest => if g.name == f.name then f :: rest else g :: addField f rest

/-- Whether no field that must be given stands behind one that need not. -/
def isOrdered (fields : List Field) : Bool :=
  ((fields.filter (·.isInit)).dropWhile (·.isRequired)).all fun f => !f.isRequired

/-- The casing that is meant by a text. -/
def casing (s : String) : Outcome Casing :=
  match Casing.ofText? s with
  | some c => .ok c
  | none => .error (.value (.unknownCasing s))

/-- The casing of a definition, camel case by default. -/
def casingOrCamel (s : Option String) : Outcome Casing :=
  match s with
  | some s => casing s
  | none => .ok .camel

/-- A record as it is declared. -/
structure RecordDeclaration where
  name : String
  base? : Option String
  isConvertible : Bool
  casing? : Option String
  fields : List FieldDeclaration

/-- The record that a declaration extends, or one without fields. -/
def baseOf (s : Schema) (base? : Option String) : Outcome RecordType :=
  match base? with
  | none => .ok ⟨"", none, [], []⟩
  | some name =>
    match s.record? name with
    | some r => .ok r
    | none => .error .unknownName

/-- The schema with a new record. Two defaults in any declaration are refused before any default is
looked at. -/
def defineRecord (s : Schema) (d : RecordDeclaration) : Outcome Schema := do
  let base ← s.baseOf d.base?
  if d.fields.any (·.isAmbiguous) then .error (.value .defaultTwice)
  let own ← d.fields.mapM FieldDeclaration.check
  let fields := own.foldl (fun done f => addField f done) base.fields
  if !isOrdered fields then .error (.type .definition)
  let casing? ← if d.isConvertible then (casingOrCamel d.casing?).map some else .ok base.casing?
  let record : RecordType := ⟨d.name, casing?, fields, base.annotations ++ own.map (·.type)⟩
  return assign d.name (.record record) s

/-- The members of an enum without those that repeat an earlier value, and the member that each name
stands for. -/
def canonicalMembers (members : List (String × Native)) :
    List (String × Native) × List (String × String) :=
  members.foldl (fun (done, names) m =>
    match done.find? fun d => d.2.equal .apart m.2 with
    | some d => (done, names ++ [(m.1, d.1)])
    | none => (done ++ [m], names ++ [(m.1, m.1)])) ([], [])

/-- The wire name of a member: its own one, unless that is empty, or its name in a casing. -/
def memberWireName (renames : List (String × String)) (casing : Casing) (member : String) :
    String :=
  match renames.lookup member with
  | some "" | none => casing.apply member
  | some wire => wire

/-- The schema with a new enum. -/
def defineEnum (s : Schema) (name : String) (members : List (String × Native))
    (casing? : Option String) (renames : List (String × String)) : Outcome Schema := do
  let (own, names) := canonicalMembers members
  let casing ← casingOrCamel casing?
  let unknown := (renames.map (·.1)).filter fun m => !names.any (·.1 == m)
  if !unknown.isEmpty then
    .error (.value (.unknownRenames name (unknown.mergeSort fun a b => !(b < a))))
  let wires := own.map fun m => (m.1, memberWireName renames casing m.1)
  return assign name (.enum ⟨name, wires, names⟩) s

/-- What comes of a record definition on a class without fields of its own. -/
def defineNonRecord (name : String) (casing? : Option String) : Outcome Schema := do
  let _ ← casingOrCamel casing?
  .error (.type (.notRecord name))

/-- What comes of an enum definition on a class without members. -/
def defineNonEnum (name : String) (casing? : Option String) : Outcome Schema := do
  let _ ← casingOrCamel casing?
  .error (.type (.notEnum name))

/-! ### Instances -/

/-- The object in a field of a new instance, if there is one. -/
def fieldObject (arguments : List (String × Native)) (f : Field) :
    Outcome (Option (String × Native)) :=
  match (if f.isInit then arguments.lookup f.name else none), f.default? with
  | some n, _ | none, some n => .ok (some (f.name, n))
  | none, none => if f.isInit then .error (.type .arguments) else .ok none

/-- The instance of a record with given arguments. -/
def instantiate (s : Schema) (type : String) (arguments : List (String × Native)) :
    Outcome Native :=
  match s.record? type with
  | none => .error .missingItem
  | some r =>
    if arguments.all fun a => r.fields.any fun f => f.isInit && f.name == a.1 then do
      let fields ← r.fields.mapM (fieldObject arguments)
      return .record type (fields.filterMap (·))
    else .error (.type .arguments)

/-- The member of an enum that a name stands for. -/
def memberNamed (s : Schema) (type name : String) : Outcome Native :=
  match (s.enum? type).bind fun e => e.names.lookup name with
  | some member => .ok (.enum type member)
  | none => .error .missingItem

end Schema

end EntityStore
