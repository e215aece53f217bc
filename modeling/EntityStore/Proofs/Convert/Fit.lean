import EntityStore.Convert.From
import EntityStore.Proofs.Outcome

/-!
# Values that fit a target

A target says which values fit it, without regard to how they are read. What is read from a value
that fits is an object of the target, part by part; all other values are misfits.

* `Target.SupportedIn`, `Schema.SupportsAll`, `Target.IsSupported` — targets that values can be read
  as;
* `Fits` — the values that fit a target;
* `IsReading` — the object of a target that a value stands for;
* `Error.IsMisfit` — the errors for values that do not fit;
* `Outcome.Decides` — an outcome that succeeds exactly if a condition holds, and else is a misfit.
-/

namespace EntityStore

/-! ### Supported targets -/

namespace Target

mutual

/-- A value can be read as the target. `names` has its defined types. -/
def SupportedIn (names : List String) : Target → Prop
  | plain f | optional f => SupportedFormIn names f

/-- A value can be read as the form. -/
def SupportedFormIn (names : List String) : Form → Prop
  | .value | .any | .string | .integer | .double | .boolean | .binary | .dateTime | .key
  | .geoPoint | .variant _ => True
  | .list t | .tuple t | .mapping t => SupportedIn names t
  | .fixed ts => SupportedAllIn names ts
  | .type name => name ∈ names
  | .label | .union _ | .unsupported _ => False

/-- Values can be read as all of the targets. -/
def SupportedAllIn (names : List String) : List Target → Prop
  | [] => True
  | t :: ts => SupportedIn names t ∧ SupportedAllIn names ts

end

theorem SupportedIn.form {names : List String} {t : Target} (h : t.SupportedIn names) :
    SupportedFormIn names t.form := by
  cases t <;> exact h

end Target

/-- A record type that values can be read as: it takes part in conversions with a casing, all types
that it mentions are defined, no two fields are read from one property, and the types of the fields
that are read are supported. -/
structure RecordType.IsReadable (s : Schema) (names : List String) (casing : Casing)
    (r : RecordType) : Prop where
  convertible : r.casing? = some casing
  resolved : ∀ name ∈ r.annotations.flatMap Target.names, (s.lookup name).isSome = true
  distinct : ((r.fields.filter (·.isInit)).map fun f => f.wireName casing).Nodup
  supported : ∀ f ∈ r.fields, f.isInit = true → f.type.SupportedIn names

/-- Every name is that of an enum or of a record type that values can be read as. -/
def Schema.SupportsAll (s : Schema) (names : List String) : Prop :=
  ∀ name ∈ names, (∃ e, s.enum? name = some e) ∨
    ∃ r casing, s.record? name = some r ∧ r.IsReadable s names casing

/-- Values can be read as the target, and as the fields of all records that can be reached from it.
Records may mention themselves. -/
def Target.IsSupported (s : Schema) (t : Target) : Prop :=
  ∃ names, t.SupportedIn names ∧ s.SupportsAll names

/-! ### Values that fit -/

/-- The values that fit a target. For an optional form these are null, the wrapped values that fit
the form, and those that are no options and fit it. A record takes the entities that have a fitting
property for each of its fields, or none if the field has a default; other properties are passed
over. -/
inductive Fits (s : Schema) : Target → Value → Prop
  | absent {f : Form} : Fits s (.optional f) .null
  | wrapped {f : Form} {v : Value} (h : Fits s (.plain f) v) : Fits s (.optional f) (.wrapped v)
  | unwrapped {f : Form} {v : Value} (hv : v.variant? ≠ some .option) (h : Fits s (.plain f) v) :
      Fits s (.optional f) v
  | value (v : Value) : Fits s (.plain .value) v
  | any (v : Value) : Fits s (.plain .any) v
  | variant {expected : Variant} {v : Value} (h : v.variant? = some expected) :
      Fits s (.plain (.variant expected)) v
  | string (t : String) : Fits s (.plain .string) (.string t)
  | integer (n : Int64) : Fits s (.plain .integer) (.integer n)
  | double (d : Double) : Fits s (.plain .double) (.double d)
  | boolean (b : Bool) : Fits s (.plain .boolean) (.boolean b)
  | binary (b : Bytes) : Fits s (.plain .binary) (.blob b)
  | dateTime (t : DateTime) : Fits s (.plain .dateTime) (.timestamp t)
  | key (k : Key) : Fits s (.plain .key) (.key k)
  | geoPoint (p : GeoPoint) : Fits s (.plain .geoPoint) (.geoPoint p)
  | list {t : Target} {items : List Value} (h : ∀ v ∈ items, Fits s t v) :
      Fits s (.plain (.list t)) (.array items)
  | tuple {t : Target} {items : List Value} (h : ∀ v ∈ items, Fits s t v) :
      Fits s (.plain (.tuple t)) (.array items)
  | fixed {ts : List Target} {items : List Value} (hlen : ts.length = items.length)
      (h : ∀ p ∈ ts.zip items, Fits s p.1 p.2) : Fits s (.plain (.fixed ts)) (.array items)
  | mapping {t : Target} {properties : List (String × Value)}
      (h : ∀ p ∈ properties, Fits s t p.2) : Fits s (.plain (.mapping t)) (.entity properties)
  | enum {name wire : String} {e : EnumType} (he : s.enum? name = some e)
      (h : wire ∈ e.members.map Prod.snd) : Fits s (.plain (.type name)) (.string wire)
  | record {name : String} {r : RecordType} {casing : Casing} {properties : List (String × Value)}
      (hr : s.record? name = some r) (hcasing : r.casing? = some casing)
      (h : ∀ f ∈ r.fields, f.isInit = true →
        ∀ v, properties.lookup (f.wireName casing) = some v → Fits s f.type v)
      (habsent : ∀ f ∈ r.fields, f.isInit = true →
        properties.lookup (f.wireName casing) = none → f.default?.isSome = true) :
      Fits s (.plain (.type name)) (.entity properties)

/-! ### What a value stands for -/

/-- The object in a field of a record that is read from properties: what the property of the field
gives, or the default where there is no property or the field is not given. -/
def Field.held (casing : Casing) (properties : List (String × Value)) (given : String → Native)
    (f : Field) : Option Native :=
  if f.isInit && (properties.lookup (f.wireName casing)).isSome then
    some (given (f.wireName casing))
  else f.default?

/-- The object of a target that a value stands for. Items, entries and fields of the object stand
for those of the value one by one. `given` has what the properties of a record stand for. -/
inductive IsReading (s : Schema) : Target → Value → Native → Prop
  | absent {f : Form} : IsReading s (.optional f) .null .null
  | wrapped {f : Form} {v : Value} {n : Native} (h : IsReading s (.plain f) v n) :
      IsReading s (.optional f) (.wrapped v) n
  | unwrapped {f : Form} {v : Value} {n : Native} (hv : v.variant? ≠ some .option)
      (h : IsReading s (.plain f) v n) : IsReading s (.optional f) v n
  | value (v : Value) : IsReading s (.plain .value) v (.value v)
  | any (v : Value) : IsReading s (.plain .any) v (.value v)
  | variant {expected : Variant} {v : Value} (h : v.variant? = some expected) :
      IsReading s (.plain (.variant expected)) v (.value v)
  | string (t : String) : IsReading s (.plain .string) (.string t) (.string t)
  | integer (n : Int64) : IsReading s (.plain .integer) (.integer n) (.integer n.toInt)
  | double (d : Double) : IsReading s (.plain .double) (.double d) (.double d)
  | boolean (b : Bool) : IsReading s (.plain .boolean) (.boolean b) (.boolean b)
  | binary (b : Bytes) : IsReading s (.plain .binary) (.blob b) (.binary .bytes b)
  | dateTime (t : DateTime) : IsReading s (.plain .dateTime) (.timestamp t) (.dateTime t none)
  | key (k : Key) : IsReading s (.plain .key) (.key k) (.key k)
  | geoPoint (p : GeoPoint) : IsReading s (.plain .geoPoint) (.geoPoint p) (.geoPoint p)
  | list {t : Target} {items : List Value} {ns : List Native} (hlen : items.length = ns.length)
      (h : ∀ p ∈ items.zip ns, IsReading s t p.1 p.2) :
      IsReading s (.plain (.list t)) (.array items) (.list ns)
  | tuple {t : Target} {items : List Value} {ns : List Native} (hlen : items.length = ns.length)
      (h : ∀ p ∈ items.zip ns, IsReading s t p.1 p.2) :
      IsReading s (.plain (.tuple t)) (.array items) (.tuple ns)
  | fixed {ts : List Target} {items : List Value} {ns : List Native}
      (hitems : ts.length = items.length) (hlen : ts.length = ns.length)
      (h : ∀ p ∈ ts.zip (items.zip ns), IsReading s p.1 p.2.1 p.2.2) :
      IsReading s (.plain (.fixed ts)) (.array items) (.tuple ns)
  | mapping {t : Target} {properties : List (String × Value)} {entries : List (String × Native)}
      (hnames : properties.map Prod.fst = entries.map Prod.fst)
      (h : ∀ p ∈ properties.zip entries, IsReading s t p.1.2 p.2.2) :
      IsReading s (.plain (.mapping t)) (.entity properties) (.ofProperties entries)
  | enum {name member wire : String} {e : EnumType} (he : s.enum? name = some e)
      (h : (member, wire) ∈ e.members) :
      IsReading s (.plain (.type name)) (.string wire) (.enum name member)
  | record {name : String} {r : RecordType} {casing : Casing} {properties : List (String × Value)}
      {given : String → Native} (hr : s.record? name = some r) (hcasing : r.casing? = some casing)
      (h : ∀ f ∈ r.fields, f.isInit = true →
        ∀ v, properties.lookup (f.wireName casing) = some v →
          IsReading s f.type v (given (f.wireName casing))) :
      IsReading s (.plain (.type name)) (.entity properties)
        (.record name (r.fields.filterMap fun f =>
          (f.held casing properties given).map (f.name, ·)))

/-! ### Misfits -/

/-- The errors that tell of a value that does not fit: another type of property, a missing property,
and a text that is no member of an enum. -/
def Error.IsMisfit : Error → Prop
  | .failure (.unexpectedType _ _) | .failure (.missingProperty _ _)
  | .failure (.decode (.unknownVariant _ _)) => True
  | _ => False

/-! ### Decisions -/

/-- The outcome is a success of some kind if a condition holds, and else a misfit. -/
inductive Outcome.Decides {α : Type} (P : Prop) (Q : α → Prop) : Outcome α → Prop
  | ok {a : α} (hp : P) (h : Q a) : Decides P Q (.ok a)
  | error {e : Error} (hp : ¬ P) (h : e.IsMisfit) : Decides P Q (.error e)

namespace Outcome.Decides

variable {α β γ : Type} {P P' P'' : Prop} {Q : α → Prop} {Q' : β → Prop} {Q'' : γ → Prop}

theorem exists_ok_iff {x : Outcome α} (h : Decides P Q x) : (∃ a, x = .ok a) ↔ P := by
  cases h with
  | ok hp => exact iff_of_true ⟨_, rfl⟩ hp
  | error hp => exact iff_of_false nofun hp

theorem bind {x : Outcome α} {f : α → Outcome β} (h : Decides P Q x) (hiff : P' → P)
    (hf : ∀ a, P → Q a → Decides P' Q' (f a)) : Decides P' Q' (x.bind f) := by
  cases h with
  | ok hp ha => exact hf _ hp ha
  | error hp he => exact .error (fun hp' => hp (hiff hp')) he

theorem map {x : Outcome α} {f : α → β} (h : Decides P Q x) (hiff : P' ↔ P)
    (hf : ∀ a, Q a → Q' (f a)) : Decides P' Q' (x.map f) := by
  cases h with
  | ok hp ha => exact .ok (hiff.mpr hp) (hf _ ha)
  | error hp he => exact .error (fun hp' => hp (hiff.mp hp')) he

theorem mono {Q₁ : α → Prop} {x : Outcome α} (h : Decides P Q x) (hiff : P' ↔ P)
    (hq : ∀ a, Q a → Q₁ a) : Decides P' Q₁ x := by
  cases h with
  | ok hp ha => exact .ok (hiff.mpr hp) (hq _ ha)
  | error hp he => exact .error (fun hp' => hp (hiff.mp hp')) he

/-- An item and the rest of a list. -/
theorem both {x : Outcome α} {y : Outcome β} {f : α → β → γ} (hx : Decides P Q x)
    (hy : Decides P' Q' y) (hiff : P'' ↔ P ∧ P') (hf : ∀ a b, Q a → Q' b → Q'' (f a b)) :
    Decides P'' Q'' (x.bind fun a => y.map (f a)) :=
  hx.bind (fun hp => (hiff.mp hp).1) fun a hp ha =>
    hy.map (hiff.trans (and_iff_right hp)) fun b hb => hf a b ha hb

end Outcome.Decides

end EntityStore
