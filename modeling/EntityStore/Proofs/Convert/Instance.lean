import EntityStore.Schema

/-!
# Objects of a type

Which objects are of exactly the type that a target names.

* `RecordType.IsFaithful` — record types whose objects are stored without loss;
* `Native.IsOf` — the objects of a target.
-/

namespace EntityStore

/-- A record type that stores every field: it takes part in conversions with a casing, all types
that it mentions are defined, all of its fields are given at construction, and no two of them are
stored in one property. -/
structure RecordType.IsFaithful (s : Schema) (casing : Casing) (r : RecordType) : Prop where
  convertible : r.casing? = some casing
  resolved : ∀ name ∈ r.annotations.flatMap Target.names, (s.lookup name).isSome = true
  allInit : ∀ f ∈ r.fields, f.isInit = true
  distinct : (r.fields.map fun f => f.wireName casing).Nodup

/-- The objects of exactly the type of a target. A form that may be absent has its own objects and
the null object, an object of a record type has an object for each field in the order of the
fields, and an object of an enum is one of its members. -/
inductive Native.IsOf (s : Schema) : Target → Native → Prop
  | absent {f : Form} (h : ∀ fs, f ≠ .union fs) : IsOf s (.optional f) .null
  | present {f : Form} {n : Native} (h : IsOf s (.plain f) n) : IsOf s (.optional f) n
  | string (t : String) : IsOf s (.plain .string) (.string t)
  | integer (n : Int) (h : fitsInt64 n = true) : IsOf s (.plain .integer) (.integer n)
  | double (d : Double) : IsOf s (.plain .double) (.double d)
  | boolean (b : Bool) : IsOf s (.plain .boolean) (.boolean b)
  | binary (b : Bytes) : IsOf s (.plain .binary) (.binary .bytes b)
  | dateTime (t : DateTime) : IsOf s (.plain .dateTime) (.dateTime t none)
  | key (k : Key) : IsOf s (.plain .key) (.key k)
  | geoPoint (p : GeoPoint) : IsOf s (.plain .geoPoint) (.geoPoint p)
  | list {t : Target} {items : List Native} (h : ∀ n ∈ items, IsOf s t n) :
      IsOf s (.plain (.list t)) (.list items)
  | tuple {t : Target} {items : List Native} (h : ∀ n ∈ items, IsOf s t n) :
      IsOf s (.plain (.tuple t)) (.tuple items)
  | fixed {ts : List Target} {items : List Native} (hlen : ts.length = items.length)
      (h : ∀ p ∈ ts.zip items, IsOf s p.1 p.2) : IsOf s (.plain (.fixed ts)) (.tuple items)
  | mapping {t : Target} {entries : List (String × Native)}
      (hnodup : (entries.map Prod.fst).Nodup) (h : ∀ e ∈ entries, IsOf s t e.2) :
      IsOf s (.plain (.mapping t)) (.ofProperties entries)
  | record {name : String} {r : RecordType} {casing : Casing} {fields : List (String × Native)}
      (hr : s.record? name = some r) (hfaithful : r.IsFaithful s casing)
      (hlen : r.fields.length = fields.length)
      (hnames : ∀ p ∈ r.fields.zip fields, p.2.1 = p.1.name)
      (h : ∀ p ∈ r.fields.zip fields, IsOf s p.1.type p.2.2) :
      IsOf s (.plain (.type name)) (.record name fields)
  | enum {name member : String} {e : EnumType} (he : s.enum? name = some e)
      (hdistinct : (e.members.map Prod.snd).Nodup) (hmember : member ∈ e.members.map Prod.fst) :
      IsOf s (.plain (.type name)) (.enum name member)

/-- Only a target that allows absence has the null object. -/
theorem Native.IsOf.ne_null {s : Schema} {f : Form} {n : Native} (h : Native.IsOf s (.plain f) n) :
    n ≠ .null := by
  cases h <;> exact nofun

end EntityStore
