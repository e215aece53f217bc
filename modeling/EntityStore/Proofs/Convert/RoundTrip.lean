import EntityStore.Proofs.Convert.Instance
import EntityStore.Proofs.Convert.Parts
import EntityStore.Proofs.Schema
import Mathlib.Data.List.Nodup

/-!
# Objects survive their conversion

An object is made into a value by the class it has, and the value is read by the target it is asked
for. The two agree on all objects of the target.

* `IsKept` — an object is stored as a value from which its target reads it back;
* `isKept_record`, `isKept_enum` — the defined types;
* `fromValue_intoValue` — every object of a target is read back from its value.
-/

namespace EntityStore

variable {s : Schema}

/-- An object becomes a value from which the target reads the object. Only the null object becomes
an option, so that a target which allows absence takes no other value for an absent one. -/
structure IsKept (s : Schema) (t : Target) (n : Native) (v : Value) : Prop where
  into : intoValue s n = .ok v
  back : reader s v t = .ok n
  absent : v.variant? = some .option → n = .null

/-! ### Forms without parts -/

theorem isKept_absent {f : Form} (h : ∀ fs, f ≠ .union fs) :
    IsKept s (.optional f) .null .null := by
  refine ⟨rfl, ?_, fun _ => rfl⟩
  cases f with
  | union fs => exact absurd rfl (h fs)
  | _ => rfl

theorem isKept_present {f : Form} {n : Native} {v : Value} (hn : n ≠ .null)
    (h : IsKept s (.plain f) n v) : IsKept s (.optional f) n v := by
  have hv : v.variant? ≠ some .option := fun hv => hn (h.absent hv)
  refine ⟨h.into, ?_, h.absent⟩
  rw [reader_optional hv]
  exact h.back

theorem isKept_integer {n : Int} (h : fitsInt64 n = true) :
    IsKept s (.plain .integer) (.integer n) (.integer (.ofInt n)) := by
  have hrange : -2 ^ 63 ≤ n ∧ n < 2 ^ 63 := by
    unfold fitsInt64 at h
    rw [Bool.and_eq_true, decide_eq_true_eq, decide_eq_true_eq] at h
    omega
  have hback : (Int64.ofInt n).toInt = n := Int64.toInt_ofInt_of_le hrange.1 hrange.2
  refine ⟨?_, ?_, nofun⟩
  · show Value.ofInt n = _
    rw [Value.ofInt, if_pos h]
  · show Except.ok (Native.integer (Int64.ofInt n).toInt) = _
    rw [hback]

/-! ### Lists and mappings -/

/-- Lists and tuples are stored item by item, and all items are read as one target. -/
theorem isKept_items {t : Target} {form : Form} {wrap : List Native → Native}
    {rows : List (Native × Value)}
    (hinto : ∀ items, intoValue s (wrap items) = (intoItems s items).map .array)
    (hback : ∀ vs, reader s (.array vs) (.plain form) = (readAll (itemReaders s vs) t).map wrap)
    (h : ∀ r ∈ rows, IsKept s t r.1 r.2) :
    IsKept s (.plain form) (wrap (rows.map Prod.fst)) (.array (rows.map Prod.snd)) := by
  refine ⟨?_, ?_, nofun⟩
  · rw [hinto, intoItems_rows (fun n => n) fun r hr => (h r hr).into]
    rfl
  · rw [hback, readAll_rows fun r hr => (h r hr).back]
    rfl

/-- A tuple of a given length is stored item by item like any other, and each item is read as its
own target. -/
theorem isKept_fixed {rows : List ((Target × Native) × Value)}
    (h : ∀ r ∈ rows, IsKept s r.1.1 r.1.2 r.2) :
    IsKept s (.plain (.fixed (rows.map fun r => r.1.1))) (.tuple (rows.map fun r => r.1.2))
      (.array (rows.map Prod.snd)) := by
  refine ⟨?_, ?_, nofun⟩
  · rw [intoValue, intoItems_rows Prod.snd fun r hr => (h r hr).into]
    rfl
  · show (if (rows.map fun r => r.1.1).length == (itemReaders s (rows.map Prod.snd)).length then
      (readEach (itemReaders s (rows.map Prod.snd)) (rows.map fun r => r.1.1)).map Native.tuple
      else _) = _
    have hlength : ((rows.map fun r => r.1.1).length ==
        (itemReaders s (rows.map Prod.snd)).length) = true := by
      rw [itemReaders_map, List.length_map, List.length_map, List.length_map]
      exact beq_self_eq_true _
    rw [if_pos hlength, readEach_rows fun r hr => (h r hr).back]
    rfl

theorem isKept_mapping {t : Target} {rows : List ((String × Native) × Value)}
    (h : ∀ r ∈ rows, IsKept s t r.1.2 r.2) :
    IsKept s (.plain (.mapping t)) (.ofProperties (rows.map Prod.fst))
      (.entity (rows.map fun r => (r.1.1, r.2))) := by
  refine ⟨?_, ?_, nofun⟩
  · rw [Native.ofProperties, intoValue, List.map_map]
    show (intoEntries s (rows.map fun r => (.string r.1.1, r.1.2))).map Value.entity = _
    rw [intoEntries_rows fun r hr => (h r hr).into]
    rfl
  · show (readProperties (readers s (rows.map fun r => (r.1.1, r.2))) t).map
      Native.ofProperties = _
    rw [readProperties_rows fun r hr => (h r hr).back]
    rfl

/-! ### Enums -/

/-- A member whose wire name is its own is found under that name. -/
theorem member?_of_mem {e : EnumType} {member wire : String}
    (hdistinct : (e.members.map Prod.snd).Nodup) (h : (member, wire) ∈ e.members) :
    e.member? wire = some member := by
  obtain ⟨front, back, hsplit⟩ := List.append_of_mem h
  refine EnumType.member?_of_last hsplit ?_
  rw [hsplit, List.map_append, List.map_cons] at hdistinct
  exact (List.nodup_cons.mp (List.nodup_append.mp hdistinct).2.1).1

/-- A member is stored as the string that is its wire name. -/
theorem isKept_enum {name member : String} {e : EnumType} (hs : s.WellFormed)
    (he : s.enum? name = some e) (hdistinct : (e.members.map Prod.snd).Nodup)
    (hmember : member ∈ e.members.map Prod.fst) :
    ∃ v, IsKept s (.plain (.type name)) (.enum name member) v := by
  obtain ⟨wire, hwire⟩ : ∃ wire, e.members.lookup member = some wire := by
    cases hfound : e.members.lookup member with
    | some wire => exact ⟨wire, rfl⟩
    | none =>
      obtain ⟨m, hm, rfl⟩ := List.mem_map.mp hmember
      have hne := List.lookup_eq_none_iff.mp hfound m hm
      exact absurd rfl (bne_iff_ne.mp hne)
  refine ⟨.string wire, ?_, ?_, nofun⟩
  · show s.memberValue name member = _
    rw [Schema.memberValue, he, Option.bind_some, EnumType.wireName?, hwire]
  · show readDefined s (.string wire) name [] = _
    rw [readDefined, Schema.lookup_of_enum? he]
    show Schema.readMember e wire = _
    rw [Schema.readMember, member?_of_mem hdistinct (mem_of_lookup hwire), hs.of_enum? he]

/-! ### Records -/

/-- A field as it takes part in conversions. -/
def Field.stored (casing : Casing) (f : Field) : RecordField :=
  ⟨f.name, f.wireName casing, f.type, f.isRequired⟩

/-- The fields that take part in conversions are those that are given at construction, if all types
that the record mentions are defined. -/
theorem recordFields_of_resolved {r : RecordType} {casing : Casing}
    (h : ∀ name ∈ r.annotations.flatMap Target.names, (s.lookup name).isSome = true) :
    s.recordFields r casing = .ok ((r.fields.filter (·.isInit)).map (Field.stored casing)) := by
  rw [Schema.recordFields, if_pos (List.all_eq_true.mpr h)]
  rfl

namespace RecordType.IsFaithful

variable {r : RecordType} {casing : Casing} {name : String}

/-- All fields take part in conversions. -/
theorem recordFields_eq (h : r.IsFaithful s casing) :
    s.recordFields r casing = .ok (r.fields.map (Field.stored casing)) := by
  rw [recordFields_of_resolved h.resolved, List.filter_eq_self.mpr h.allInit]

/-- The properties of an object of the type are the values of its fields, under their wire names. -/
theorem recordValue_rows {α : Type} {field : α → Field} {rows : List (α × Value)}
    (h : r.IsFaithful s casing) (hr : s.record? name = some r)
    (hfields : r.fields = rows.map fun row => field row.1)
    (hnames : (r.fields.map Field.name).Nodup) :
    s.recordValue name (rows.map fun row => ((field row.1).name, .ok row.2)) =
      .ok (.entity (rows.map fun row => ((field row.1).wireName casing, row.2))) := by
  have hlookup : ∀ row ∈ rows,
      (rows.map fun row => ((field row.1).name, (.ok row.2 : Outcome Value))).lookup
        (field row.1).name = some (.ok row.2) := by
    rw [hfields, List.map_map] at hnames
    exact fun row hrow => lookup_rows (fun row => (field row.1).name) _ hnames hrow
  have hdistinct : ((rows.map fun row => ((field row.1).wireName casing, row.2)).map
      Prod.fst).Nodup := by
    have hwires := h.distinct
    rw [hfields, List.map_map] at hwires
    rw [List.map_map]
    exact hwires
  rw [Schema.recordValue, hr, Option.bind_some, h.convertible]
  simp only [Option.map_some]
  rw [h.recordFields_eq, hfields, List.map_map]
  show ((rows.map fun row => (field row.1).stored casing).mapM _ >>= fun properties =>
    Except.ok (Value.entity (assignAll properties))) = _
  rw [mapM_rows fun row => ((field row.1).wireName casing, row.2)]
  · show Except.ok (Value.entity (assignAll _)) = _
    rw [assignAll_of_nodup hdistinct]
  · intro row hrow
    rw [show ((field row.1).stored casing).name = (field row.1).name from rfl, hlookup row hrow]
    rfl

/-- An instance with an object for every field has exactly these objects. -/
theorem instantiate_rows {α : Type} {field : α → Field} (object : α → Native) {rows : List α}
    (h : r.IsFaithful s casing) (hr : s.record? name = some r)
    (hfields : r.fields = rows.map field) (hnames : (r.fields.map Field.name).Nodup) :
    s.instantiate name (rows.map fun row => ((field row).name, object row)) =
      .ok (.record name (rows.map fun row => ((field row).name, object row))) := by
  have hmem : ∀ row ∈ rows, field row ∈ r.fields := by
    intro row hrow
    rw [hfields]
    exact List.mem_map_of_mem hrow
  have hinit : ∀ row ∈ rows, (field row).isInit = true := fun row hrow =>
    h.allInit _ (hmem row hrow)
  have hgiven : ∀ row ∈ rows,
      (rows.map fun row => ((field row).name, object row)).lookup (field row).name =
        some (object row) := by
    rw [hfields, List.map_map] at hnames
    exact fun row hrow => lookup_rows (fun row => (field row).name) object hnames hrow
  have hobjects : r.objects (rows.map fun row => ((field row).name, object row)) =
      rows.map fun row => ((field row).name, object row) := by
    rw [RecordType.objects, hfields, List.filterMap_map]
    refine (List.filterMap_congr fun row hrow => ?_).trans (congrFun List.filterMap_eq_map rows)
    dsimp only [Function.comp]
    rw [if_pos (hinit row hrow), hgiven row hrow]
    rfl
  rw [instantiate_of_complete hr, hobjects]
  · intro a ha
    obtain ⟨row, hrow, rfl⟩ := List.mem_map.mp ha
    exact ⟨field row, hmem row hrow, hinit row hrow, rfl⟩
  · intro f hf _ hnone
    rw [hfields] at hf
    obtain ⟨row, hrow, rfl⟩ := List.mem_map.mp hf
    rw [hgiven row hrow] at hnone
    cases hnone

end RecordType.IsFaithful

theorem reader_defined (properties : List (String × Value)) (name : String) :
    reader s (.entity properties) (.plain (.type name)) =
      readDefined s (.entity properties) name (readers s properties) := rfl

/-- A record is stored field by field, and its fields are read back from their properties. -/
theorem isKept_record {name : String} {r : RecordType} {casing : Casing}
    {rows : List ((Field × (String × Native)) × Value)} (hs : s.WellFormed)
    (hr : s.record? name = some r) (hfaithful : r.IsFaithful s casing)
    (hfields : r.fields = rows.map fun row => row.1.1)
    (h : ∀ row ∈ rows, IsKept s row.1.1.type row.1.2.2 row.2) :
    IsKept s (.plain (.type name))
      (.record name (rows.map fun row => (row.1.1.name, row.1.2.2)))
      (.entity (rows.map fun row => (row.1.1.wireName casing, row.2))) := by
  obtain ⟨hname, hnames⟩ := hs.of_record? hr
  refine ⟨?_, ?_, nofun⟩
  · rw [intoValue, intoFields_rows (fun p => p.1.name) (fun p => p.2.2)
      fun row hrow => (h row hrow).into]
    exact hfaithful.recordValue_rows hr hfields hnames
  · have hwires : (rows.map fun row => (row.1.1.stored casing).wireName).Nodup := by
      have hdistinct := hfaithful.distinct
      rw [hfields, List.map_map] at hdistinct
      exact hdistinct
    have hread : Schema.readFields (rows.map fun row => row.1.1.stored casing)
        (readers s (rows.map fun row => (row.1.1.wireName casing, row.2))) =
        .ok (rows.map fun row => (row.1.1.name, row.1.2.2)) :=
      readFields_rows (fun p => p.1.stored casing) (fun p => p.2.2) hwires
        fun row hrow => (h row hrow).back
    have hinstance := hfaithful.instantiate_rows (fun row => row.1.2.2) hr hfields hnames
    rw [reader_defined, readDefined, Schema.lookup_of_record? hr]
    simp only [hfaithful.convertible]
    rw [Schema.readRecord, hfaithful.recordFields_eq, hname, hfields, List.map_map]
    show (Schema.readFields (rows.map fun row => row.1.1.stored casing) _ >>= fun arguments =>
      s.instantiate name arguments) = _
    rw [hread]
    exact hinstance

/-! ### All objects -/

/-- Every object of a target is kept: the induction is on the derivation that the object is of the
target, with one case for each form. -/
theorem exists_isKept (hs : s.WellFormed) {t : Target} {n : Native} (h : Native.IsOf s t n) :
    ∃ v, IsKept s t n v := by
  induction h with
  | absent h => exact ⟨.null, isKept_absent h⟩
  | present h ih =>
    obtain ⟨v, hv⟩ := ih
    exact ⟨v, isKept_present h.ne_null hv⟩
  | string t => exact ⟨.string t, rfl, rfl, nofun⟩
  | integer n h => exact ⟨.integer (.ofInt n), isKept_integer h⟩
  | double d => exact ⟨.double d, rfl, rfl, nofun⟩
  | boolean b => exact ⟨.boolean b, rfl, rfl, nofun⟩
  | binary b => exact ⟨.blob b, rfl, rfl, nofun⟩
  | dateTime t => exact ⟨.timestamp t, rfl, rfl, nofun⟩
  | key k => exact ⟨.key k, rfl, rfl, nofun⟩
  | geoPoint p => exact ⟨.geoPoint p, rfl, rfl, nofun⟩
  | list _ ih =>
    obtain ⟨rows, rfl, hrows⟩ := exists_rows ih
    exact ⟨_, isKept_items (fun _ => rfl) (fun _ => rfl) hrows⟩
  | tuple _ ih =>
    obtain ⟨rows, rfl, hrows⟩ := exists_rows ih
    exact ⟨_, isKept_items (fun _ => rfl) (fun _ => rfl) hrows⟩
  | @fixed ts items hlen _ ih =>
    obtain ⟨rows, hzip, hrows⟩ := exists_rows ih
    obtain ⟨hts, hitems⟩ := columns_of_zip hlen hzip
    rw [hts, hitems]
    exact ⟨_, isKept_fixed hrows⟩
  | mapping _ _ ih =>
    obtain ⟨rows, rfl, hrows⟩ := exists_rows ih
    exact ⟨_, isKept_mapping hrows⟩
  | @record name r casing fields hr hfaithful hlen hnames _ ih =>
    obtain ⟨rows, hzip, hrows⟩ := exists_rows ih
    obtain ⟨hfields, hentries⟩ := columns_of_zip hlen hzip
    have hobjects : fields = rows.map fun row => (row.1.1.name, row.1.2.2) := by
      rw [hentries]
      refine List.map_congr_left ?_
      intro row hrow
      have hname := hnames row.1 (hzip ▸ List.mem_map_of_mem hrow)
      exact Prod.ext hname rfl
    rw [hobjects]
    exact ⟨_, isKept_record hs hr hfaithful hfields hrows⟩
  | enum he hdistinct hmember => exact isKept_enum hs he hdistinct hmember

/-- **Conversions lose nothing.** Every object of a target is made into a value, and that value,
read as the target, gives the object back. -/
theorem fromValue_intoValue (hs : s.Built) {t : Target} {n : Native} (h : Native.IsOf s t n) :
    ∃ v, intoValue s n = .ok v ∧ fromValue s v t = .ok n := by
  obtain ⟨v, hv⟩ := exists_isKept hs.wellFormed h
  exact ⟨v, hv.into, hv.back⟩

/-- Colours. -/
def colours : Schema :=
  [("Colour", .enum ⟨"Colour", [("RED", "red"), ("BLUE", "b")],
    [("RED", "RED"), ("BLUE", "BLUE")]⟩)]

/-- Chains of coloured links, a record type that mentions itself. -/
def chain : RecordType :=
  ⟨"Chain", some .camel,
    [⟨"colour", .plain (.type "Colour"), some "c", none, true⟩,
      ⟨"rest", .optional (.type "Chain"), some "next", some .null, true⟩],
    [.plain (.type "Colour"), .optional (.type "Chain")]⟩

/-- The schema of chains. -/
def chains : Schema :=
  colours ++ [("Chain", .record chain)]

theorem built_chains : chains.Built := by
  have hcolours : Schema.defineEnum [] "Colour" [("RED", .integer 1), ("BLUE", .integer 2)] none
      [("RED", "red"), ("BLUE", "b")] = .ok colours := by
    have hmembers : Schema.canonicalMembers [("RED", .integer 1), ("BLUE", .integer 2)] =
        ([("RED", .integer 1), ("BLUE", .integer 2)], [("RED", "RED"), ("BLUE", "BLUE")]) := by
      simp [Schema.canonicalMembers, Native.equal, Native.equalScalars, Native.integer?]
    rw [Schema.defineEnum, hmembers]
    rfl
  have hchain : colours.defineRecord ⟨"Chain", none, true, none,
      [⟨"colour", .plain (.type "Colour"), some "c", none, none, true⟩,
        ⟨"rest", .optional (.type "Chain"), some "next", some .null, none, true⟩]⟩ =
      .ok chains := rfl
  exact .record (.enum .empty hcolours) hchain

/-- A chain of two links is read back. -/
theorem fromValue_intoValue_chain :
    ∃ v, intoValue chains
        (.record "Chain" [("colour", .enum "Colour" "BLUE"),
          ("rest", .record "Chain" [("colour", .enum "Colour" "RED"), ("rest", .null)])]) = .ok v ∧
      fromValue chains v (.plain (.type "Chain")) =
        .ok (.record "Chain" [("colour", .enum "Colour" "BLUE"),
          ("rest", .record "Chain" [("colour", .enum "Colour" "RED"), ("rest", .null)])]) := by
  have hfaithful : chain.IsFaithful chains .camel :=
    ⟨rfl, by decide, by decide, by decide⟩
  have hcolour : ∀ member ∈ ["RED", "BLUE"], Native.IsOf chains
      (.plain (.type "Colour")) (.enum "Colour" member) := fun member hmember =>
    .enum rfl (by decide) hmember
  have hlink : ∀ colour rest, Native.IsOf chains
      (.plain (.type "Colour")) colour →
      Native.IsOf chains (.optional (.type "Chain")) rest →
      Native.IsOf chains (.plain (.type "Chain"))
        (.record "Chain" [("colour", colour), ("rest", rest)]) := by
    intro colour rest hcolour hrest
    refine .record rfl hfaithful rfl ?_ ?_
    · simp [chain]
    · simpa [chain] using ⟨hcolour, hrest⟩
  exact fromValue_intoValue built_chains
    (hlink _ _ (hcolour "BLUE" (by decide))
      (.present (hlink _ _ (hcolour "RED" (by decide)) (.absent nofun))))

end EntityStore
