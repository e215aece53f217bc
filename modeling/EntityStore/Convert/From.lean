import EntityStore.Schema
import EntityStore.Text.Similar

/-!
# Conversion from values

* `fromValue` — a value read as a target. A value that does not fit is refused with the labels of
  the expected and the present variant;
* `fromNative` — the same for an object, which must be a value.

A value is first made into its `Reader`, the function from targets to results; a record takes the
readers of its properties by their wire names.
-/

namespace EntityStore

/-- What a value gives for each target. -/
abbrev Reader := Target → Outcome Native

/-- A value of the wrong variant. -/
def mismatch (expected : Variant) (v : Value) : Outcome Native :=
  .error (.unexpected expected.label v.label)

/-- What an unsupported form gives. -/
def unsupported : Outcome Native :=
  .error (.type .unsupportedTarget)

namespace Schema

/-- The arguments of a record from the readers of the remaining properties, field by field. A field
uses its property up. -/
def readFields : List RecordField → List (String × Reader) → Outcome (List (String × Native))
  | [], _ => .ok []
  | f :: rest, readers =>
    match readers.lookup f.wireName with
    | some read =>
      match read f.type with
      | .error e => .error e
      | .ok n => (readFields rest (unassign f.wireName readers)).map ((f.name, n) :: ·)
    | none =>
      if f.required then
        .error (.failure (.missingProperty f.wireName
          (Text.closeMatches f.wireName (readers.map (·.1)) 3)))
      else readFields rest readers

/-- The instance of a record from the readers of its properties. -/
def readRecord (s : Schema) (r : RecordType) (casing : Casing) (readers : List (String × Reader)) :
    Outcome Native := do
  let fields ← s.recordFields r casing
  let arguments ← readFields fields readers
  s.instantiate r.name arguments

/-- The member of an enum with a wire name. -/
def readMember (e : EnumType) (wire : String) : Outcome Native :=
  match e.member? wire with
  | some member => .ok (.enum e.name member)
  | none => .error (.decode (.unknownVariant wire e.name))

end Schema

variable (s : Schema)

/-- A value read as a defined type, given the readers of its properties. -/
def readDefined (v : Value) (name : String) (readers : List (String × Reader)) : Outcome Native :=
  match s.lookup name with
  | none => .error .unknownName
  | some (.enum e) =>
    match v with
    | .string wire => Schema.readMember e wire
    | v => mismatch .string v
  | some (.record r) =>
    match r.casing? with
    | none => unsupported
    | some casing =>
      match v with
      | .entity _ => s.readRecord r casing readers
      | v => mismatch .entity v

/-- A value that is itself the result if it has a variant. -/
def keepVariant (expected : Variant) (v : Value) : Outcome Native :=
  if v.variant? == some expected then .ok (.value v) else mismatch expected v

/-- A value read as a form that has no parts. -/
def readLeaf (v : Value) : Form → Outcome Native
  | .value | .any => .ok (.value v)
  | .string => match v with
    | .string t => .ok (.string t)
    | v => mismatch .string v
  | .integer => match v with
    | .integer n => .ok (.integer n.toInt)
    | v => mismatch .integer v
  | .double => match v with
    | .double d => .ok (.double d)
    | v => mismatch .double v
  | .boolean => match v with
    | .boolean b => .ok (.boolean b)
    | v => mismatch .boolean v
  | .binary => match v with
    | .blob b => .ok (.binary .bytes b)
    | v => mismatch .blob v
  | .dateTime => match v with
    | .timestamp t => .ok (.dateTime t none)
    | v => mismatch .timestamp v
  | .key => match v with
    | .key k => .ok (.key k)
    | v => mismatch .key v
  | .geoPoint => match v with
    | .geoPoint p => .ok (.geoPoint p)
    | v => mismatch .geoPoint v
  | .label => .ok (.string v.label)
  | .variant expected => keepVariant expected v
  | .list _ | .tuple _ | .fixed _ => mismatch .array v
  | .mapping _ => mismatch .entity v
  | .type name => readDefined s v name []
  | .union _ | .unsupported _ => unsupported

/-- Items read by their readers, all as one target. -/
def readAll : List Reader → Target → Outcome (List Native)
  | [], _ => .ok []
  | read :: rest, t =>
    match read t with
    | .error e => .error e
    | .ok n => (readAll rest t).map (n :: ·)

/-- Items read by their readers, each as its own target. -/
def readEach : List Reader → List Target → Outcome (List Native)
  | read :: rest, t :: ts =>
    match read t with
    | .error e => .error e
    | .ok n => (readEach rest ts).map (n :: ·)
  | _, _ => .ok []

/-- An array read as a form. -/
def readArray (v : Value) (readers : List Reader) : Form → Outcome Native
  | .list t => (readAll readers t).map .list
  | .tuple t => (readAll readers t).map .tuple
  | .fixed ts =>
    if ts.length == readers.length then (readEach readers ts).map .tuple else mismatch .array v
  | f => readLeaf s v f

/-- Properties read by their readers, all as one target. -/
def readProperties : List (String × Reader) → Target → Outcome (List (String × Native))
  | [], _ => .ok []
  | (name, read) :: rest, t =>
    match read t with
    | .error e => .error e
    | .ok n => (readProperties rest t).map ((name, n) :: ·)

/-- An entity read as a form. -/
def readEntity (v : Value) (readers : List (String × Reader)) : Form → Outcome Native
  | .mapping t => (readProperties readers t).map .ofProperties
  | .type name => readDefined s v name readers
  | f => readLeaf s v f

mutual

/-- What a value gives for each target. -/
def reader : Value → Reader
  | .null => fun
    | .optional (.union _) => unsupported
    | .optional _ => .ok .null
    | .plain f => readLeaf s .null f
  | .wrapped v =>
    let inner := reader v
    fun
      | .optional (.union _) => unsupported
      | .optional f => inner (.plain f)
      | .plain f => readLeaf s (.wrapped v) f
  | .entity properties =>
    let inner := readers properties
    fun t => readEntity s (.entity properties) inner t.form
  | .array items =>
    let inner := itemReaders items
    fun t => readArray s (.array items) inner t.form
  | v => fun t => readLeaf s v t.form

/-- The readers of properties. -/
def readers : List (String × Value) → List (String × Reader)
  | [] => []
  | (name, v) :: rest => (name, reader v) :: readers rest

/-- The readers of items. -/
def itemReaders : List Value → List Reader
  | [] => []
  | v :: rest => reader v :: itemReaders rest

end

/-- A value read as a target. -/
def fromValue (v : Value) (t : Target) : Outcome Native :=
  reader s v t

/-- An object read as a target. It must be a value. -/
def fromNative (n : Native) (t : Target) : Outcome Native :=
  match n with
  | .value v => fromValue s v t
  | n => .error (.type (.notValue n.typeName))

end EntityStore
