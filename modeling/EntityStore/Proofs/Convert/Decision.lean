import EntityStore.Proofs.Convert.Fit
import EntityStore.Proofs.Convert.RoundTrip

/-!
# Readers decide what fits

The reader of a value succeeds exactly for the targets that the value fits. What it gives is what
the value stands for, and it refuses all others as misfits.

* `Reader.Decides` — a reader that does so for all supported targets;
* `decides_readAll`, `decides_readEach`, `decides_readProperties` — items and properties;
* `Fills`, `AreArguments`, `decides_readFields` — the fields of a record, one after the other;
* `instantiate_held`, `decides_readRecord` — records;
* `decides_readLeaf`, `decides_readEntity`, `decides_readArray` — the forms;
* `reader_decides` — every reader of a value does so;
* `fromValue_decides` — which values are read, as what, and how the others are refused.
-/

namespace EntityStore

variable {s : Schema} {names : List String}

/-- For all supported targets, the reader decides whether the value fits. -/
def Reader.Decides (s : Schema) (names : List String) (v : Value) (read : Reader) : Prop :=
  ∀ t : Target, t.SupportedIn names → Outcome.Decides (Fits s t v) (IsReading s t v) (read t)

/-! ### Items and properties -/

theorem decides_readAll {t : Target} (ht : t.SupportedIn names) {items : List Value}
    {reads : List Reader} (h : List.Forall₂ (Reader.Decides s names) items reads) :
    Outcome.Decides (∀ v ∈ items, Fits s t v)
      (fun ns => items.length = ns.length ∧ ∀ p ∈ items.zip ns, IsReading s t p.1 p.2)
      (readAll reads t) := by
  induction h with
  | nil => exact .ok nofun ⟨rfl, nofun⟩
  | cons hread _ ih =>
    rw [readAll_cons]
    refine (hread t ht).both ih List.forall_mem_cons ?_
    rintro n ns hn ⟨hlen, hns⟩
    exact ⟨congrArg (· + 1) hlen, List.forall_mem_cons.mpr ⟨hn, hns⟩⟩

/-- Items are read as their own targets where there are as many of both. -/
theorem decides_readEach {items : List Value} {reads : List Reader}
    (h : List.Forall₂ (Reader.Decides s names) items reads) :
    ∀ {ts : List Target}, Target.SupportedAllIn names ts → ts.length = items.length →
      Outcome.Decides (∀ p ∈ ts.zip items, Fits s p.1 p.2)
        (fun ns => ts.length = ns.length ∧
          ∀ p ∈ ts.zip (items.zip ns), IsReading s p.1 p.2.1 p.2.2)
        (readEach reads ts) := by
  induction h with
  | nil =>
    intro ts _ hlen
    obtain rfl := List.length_eq_zero_iff.mp hlen
    exact .ok nofun ⟨rfl, nofun⟩
  | cons hread _ ih =>
    intro ts hts hlen
    cases ts with
    | nil => cases hlen
    | cons t ts =>
      rw [readEach_cons]
      refine (hread t hts.1).both (ih hts.2 (Nat.succ.inj hlen)) List.forall_mem_cons ?_
      rintro n ns hn ⟨hlength, hns⟩
      exact ⟨congrArg (· + 1) hlength, List.forall_mem_cons.mpr ⟨hn, hns⟩⟩

theorem decides_readProperties {t : Target} (ht : t.SupportedIn names)
    {properties : List (String × Value)} {reads : List (String × Reader)}
    (h : Entrywise (Reader.Decides s names) properties reads) :
    Outcome.Decides (∀ p ∈ properties, Fits s t p.2)
      (fun entries => properties.map Prod.fst = entries.map Prod.fst ∧
        ∀ p ∈ properties.zip entries, IsReading s t p.1.2 p.2.2)
      (readProperties reads t) := by
  induction h with
  | nil => exact .ok nofun ⟨rfl, nofun⟩
  | @cons property entry _ _ hread _ ih =>
    obtain ⟨name, read⟩ := entry
    rw [readProperties_cons]
    refine (hread.2 t ht).both ih List.forall_mem_cons ?_
    rintro n entries hn ⟨hnames, hentries⟩
    refine ⟨?_, List.forall_mem_cons.mpr ⟨hn, hentries⟩⟩
    rw [List.map_cons, List.map_cons, hread.1, hnames]

/-! ### Fields -/

/-- The properties have a fitting value for the field, or none for a field that is not required. -/
structure Fills (s : Schema) (properties : List (String × Value)) (f : RecordField) : Prop where
  present : ∀ v, properties.lookup f.wireName = some v → Fits s f.type v
  absent : properties.lookup f.wireName = none → f.required = false

theorem fills_of_absent {properties : List (String × Value)} {f : RecordField}
    (h : properties.lookup f.wireName = none) : Fills s properties f ↔ f.required = false := by
  refine ⟨fun hfills => hfills.absent h, fun hrequired => ⟨fun v hv => ?_, fun _ => hrequired⟩⟩
  rw [h] at hv
  cases hv

theorem fills_of_present {properties : List (String × Value)} {f : RecordField} {v : Value}
    (h : properties.lookup f.wireName = some v) : Fills s properties f ↔ Fits s f.type v := by
  refine ⟨fun hfills => hfills.present v h, fun hfits => ⟨fun w hw => ?_, fun hnone => ?_⟩⟩
  · obtain rfl := Option.some.inj (h.symm.trans hw)
    exact hfits
  · rw [h] at hnone
    cases hnone

/-- Whether a field can be filled depends on its own property alone. -/
theorem fills_congr {properties others : List (String × Value)} {f : RecordField}
    (h : others.lookup f.wireName = properties.lookup f.wireName) :
    Fills s properties f ↔ Fills s others f := by
  constructor
  · exact fun hfills => ⟨h ▸ hfills.present, h ▸ hfills.absent⟩
  · exact fun hfills => ⟨h ▸ hfills.present, h ▸ hfills.absent⟩

/-- The arguments for fields whose properties are there. `given` has what properties stand for. -/
def argumentsFor (properties : List (String × Value)) (given : String → Native)
    (fields : List RecordField) : List (String × Native) :=
  fields.filterMap fun f =>
    ((properties.lookup f.wireName).map fun _ => given f.wireName).map (f.name, ·)

/-- What the properties of fields stand for. -/
def Gives (s : Schema) (properties : List (String × Value)) (fields : List RecordField)
    (given : String → Native) : Prop :=
  ∀ f ∈ fields, ∀ v, properties.lookup f.wireName = some v →
    IsReading s f.type v (given f.wireName)

/-- The arguments are what the properties of the fields stand for. -/
def AreArguments (s : Schema) (properties : List (String × Value)) (fields : List RecordField)
    (arguments : List (String × Native)) : Prop :=
  ∃ given, Gives s properties fields given ∧ arguments = argumentsFor properties given fields

/-- A field without a property has no argument. -/
theorem AreArguments.skip {properties : List (String × Value)} {f : RecordField}
    {rest : List RecordField} {arguments : List (String × Native)}
    (h : properties.lookup f.wireName = none) (hrest : AreArguments s properties rest arguments) :
    AreArguments s properties (f :: rest) arguments := by
  obtain ⟨given, hgiven, rfl⟩ := hrest
  refine ⟨given, List.forall_mem_cons.mpr ⟨fun v hv => ?_, hgiven⟩, ?_⟩
  · rw [h] at hv
    cases hv
  · simp [argumentsFor, h]

/-- A field uses its property up. The others are read from what is left, under other names. -/
theorem AreArguments.cons {properties : List (String × Value)} {f : RecordField}
    {rest : List RecordField} {arguments : List (String × Native)} {v : Value} {n : Native}
    (hother : ∀ g ∈ rest, g.wireName ≠ f.wireName) (hv : properties.lookup f.wireName = some v)
    (hn : IsReading s f.type v n)
    (hrest : AreArguments s (unassign f.wireName properties) rest arguments) :
    AreArguments s properties (f :: rest) ((f.name, n) :: arguments) := by
  obtain ⟨given, hgiven, rfl⟩ := hrest
  refine ⟨Function.update given f.wireName n, List.forall_mem_cons.mpr ⟨?_, ?_⟩, ?_⟩
  · intro w hw
    obtain rfl := Option.some.inj (hv.symm.trans hw)
    rw [Function.update_self]
    exact hn
  · intro g hg w hw
    rw [Function.update_of_ne (hother g hg)]
    exact hgiven g hg w ((lookup_unassign (hother g hg) properties).trans hw)
  · have hsame : argumentsFor (unassign f.wireName properties) given rest =
        argumentsFor properties (Function.update given f.wireName n) rest := by
      refine List.filterMap_congr fun g hg => ?_
      rw [lookup_unassign (hother g hg), Function.update_of_ne (hother g hg)]
    rw [hsame]
    simp [argumentsFor, hv]

/-- **Fields are read one after the other.** A property that is used up is no property of the other
fields, since no two fields share one. -/
theorem decides_readFields {fields : List RecordField}
    (hnodup : (fields.map RecordField.wireName).Nodup)
    (htypes : ∀ f ∈ fields, f.type.SupportedIn names) :
    ∀ {properties : List (String × Value)} {reads : List (String × Reader)},
      Entrywise (Reader.Decides s names) properties reads →
      Outcome.Decides (∀ f ∈ fields, Fills s properties f) (AreArguments s properties fields)
        (Schema.readFields fields reads) := by
  induction fields with
  | nil =>
    intro properties reads _
    exact .ok nofun ⟨fun _ => .null, nofun, rfl⟩
  | cons f rest ih =>
    intro properties reads h
    obtain ⟨hfirst, hrest⟩ := List.nodup_cons.mp hnodup
    obtain ⟨htype, htypesRest⟩ := List.forall_mem_cons.mp htypes
    have hother : ∀ g ∈ rest, g.wireName ≠ f.wireName := by
      intro g hg heq
      exact hfirst (heq ▸ List.mem_map_of_mem hg)
    rcases h.lookup f.wireName with ⟨hnone, hunread⟩ | ⟨v, read, hv, hread, hdecides⟩
    -- without a property, a required field is what does not fit
    · rw [Schema.readFields, hunread]
      dsimp only
      cases hrequired : f.required with
      | true =>
        refine .error (fun hall => ?_) trivial
        rw [(hall f List.mem_cons_self).absent hnone] at hrequired
        cases hrequired
      | false =>
        have hfills : Fills s properties f := (fills_of_absent hnone).mpr hrequired
        exact (ih hrest htypesRest h).mono (List.forall_mem_cons.trans (and_iff_right hfills))
          fun _ harguments => harguments.skip hnone
    -- the other fields find their properties in what is left
    · have hfills : (∀ g ∈ rest, Fills s properties g) ↔
          ∀ g ∈ rest, Fills s (unassign f.wireName properties) g :=
        forall₂_congr fun g hg => fills_congr (lookup_unassign (hother g hg) properties)
      rw [readFields_cons hread]
      exact (hdecides f.type htype).both (ih hrest htypesRest (h.unassign f.wireName))
        (List.forall_mem_cons.trans (and_congr (fills_of_present hv) hfills))
        fun n _ hn harguments => harguments.cons hother hv hn

/-! ### Records -/

variable {r : RecordType} {casing : Casing} {properties : List (String × Value)}

/-- A field that is given has an argument exactly where its property is there. -/
theorem lookup_argumentsFor {given : String → Native} (hnames : (r.fields.map Field.name).Nodup)
    {f : Field} (hf : f ∈ r.fields) (hinit : f.isInit = true) :
    (argumentsFor properties given
        ((r.fields.filter (·.isInit)).map (Field.stored casing))).lookup f.name =
      (properties.lookup (f.wireName casing)).map fun _ => given (f.wireName casing) := by
  have hstored : f.stored casing ∈ (r.fields.filter (·.isInit)).map (Field.stored casing) :=
    List.mem_map_of_mem (List.mem_filter.mpr ⟨hf, hinit⟩)
  refine lookup_filterMap RecordField.name
    (fun g => (properties.lookup g.wireName).map fun _ => given g.wireName) ?_ hstored
  rw [List.map_map]
  exact hnames.sublist (List.filter_sublist.map Field.name)

/-- The objects of an instance are those that its fields hold. -/
theorem objects_argumentsFor {given : String → Native}
    (hnames : (r.fields.map Field.name).Nodup) :
    r.objects (argumentsFor properties given
        ((r.fields.filter (·.isInit)).map (Field.stored casing))) =
      r.fields.filterMap fun f => (f.held casing properties given).map (f.name, ·) := by
  refine List.filterMap_congr fun f hf => ?_
  cases hinit : f.isInit with
  | false => simp [Field.held, hinit]
  | true =>
    rw [if_pos rfl, lookup_argumentsFor hnames hf hinit, Field.held, hinit]
    cases properties.lookup (f.wireName casing) <;> simp

/-- The arguments of fields whose properties are there make an instance, if all other fields that
are given have a default. -/
theorem instantiate_held {name : String} {given : String → Native} (hr : s.record? name = some r)
    (hnames : (r.fields.map Field.name).Nodup)
    (hdefaults : ∀ f ∈ r.fields, f.isInit = true →
      properties.lookup (f.wireName casing) = none → f.default?.isSome = true) :
    s.instantiate name (argumentsFor properties given
        ((r.fields.filter (·.isInit)).map (Field.stored casing))) =
      .ok (.record name (r.fields.filterMap fun f =>
        (f.held casing properties given).map (f.name, ·))) := by
  rw [instantiate_of_complete hr, objects_argumentsFor hnames]
  · intro a ha
    obtain ⟨g, hg, hgiven⟩ := List.mem_filterMap.mp ha
    obtain ⟨f, hf, rfl⟩ := List.mem_map.mp hg
    obtain ⟨hmem, hinit⟩ := List.mem_filter.mp hf
    obtain ⟨n, -, rfl⟩ := Option.map_eq_some_iff.mp hgiven
    exact ⟨f, hmem, hinit, rfl⟩
  · intro f hf hinit hnone
    rw [lookup_argumentsFor hnames hf hinit, Option.map_eq_none_iff] at hnone
    exact hdefaults f hf hinit hnone

/-- **A record is read from the entities that fit it.** -/
theorem decides_readRecord {name : String} (hs : s.WellFormed) (hr : s.record? name = some r)
    (hreadable : r.IsReadable s names casing) {reads : List (String × Reader)}
    (h : Entrywise (Reader.Decides s names) properties reads) :
    Outcome.Decides (Fits s (.plain (.type name)) (.entity properties))
      (IsReading s (.plain (.type name)) (.entity properties)) (s.readRecord r casing reads) := by
  obtain ⟨hname, hnames⟩ := hs.of_record? hr
  have hdistinct : (((r.fields.filter (·.isInit)).map (Field.stored casing)).map
      RecordField.wireName).Nodup := by
    rw [List.map_map]
    exact hreadable.distinct
  have htypes : ∀ f ∈ (r.fields.filter (·.isInit)).map (Field.stored casing),
      f.type.SupportedIn names := by
    intro f hf
    obtain ⟨g, hg, rfl⟩ := List.mem_map.mp hf
    obtain ⟨hmem, hinit⟩ := List.mem_filter.mp hg
    exact hreadable.supported g hmem hinit
  have hstored : ∀ f ∈ r.fields, f.isInit = true →
      f.stored casing ∈ (r.fields.filter (·.isInit)).map (Field.stored casing) :=
    fun f hf hinit => List.mem_map_of_mem (List.mem_filter.mpr ⟨hf, hinit⟩)
  rw [Schema.readRecord, recordFields_of_resolved hreadable.resolved, hname]
  show Outcome.Decides _ _ ((Schema.readFields _ reads).bind (s.instantiate name))
  refine (decides_readFields hdistinct htypes h).bind ?_ ?_
  · intro hfits f hf
    cases hfits with
    | record hr' hcasing hpresent habsent =>
      obtain rfl := Option.some.inj (hr.symm.trans hr')
      obtain rfl := Option.some.inj (hreadable.convertible.symm.trans hcasing)
      obtain ⟨g, hg, rfl⟩ := List.mem_map.mp hf
      obtain ⟨hmem, hinit⟩ := List.mem_filter.mp hg
      refine ⟨hpresent g hmem hinit, fun hnone => ?_⟩
      have hdefault := habsent g hmem hinit hnone
      show g.default?.isNone = false
      rw [Option.isNone_eq_false_iff]
      exact hdefault
  · rintro arguments hfills ⟨given, hgiven, rfl⟩
    have habsent : ∀ f ∈ r.fields, f.isInit = true →
        properties.lookup (f.wireName casing) = none → f.default?.isSome = true := by
      intro f hf hinit hnone
      exact Option.isNone_eq_false_iff.mp ((hfills _ (hstored f hf hinit)).absent hnone)
    rw [instantiate_held hr hnames habsent]
    refine .ok (.record hr hreadable.convertible (fun f hf hinit => ?_) habsent)
      (.record hr hreadable.convertible fun f hf hinit => ?_)
    · exact (hfills _ (hstored f hf hinit)).present
    · exact hgiven _ (hstored f hf hinit)

/-! ### Forms -/

/-- A member of an enum is read from its wire name. -/
theorem decides_readMember {name : String} (hs : s.WellFormed) {e : EnumType}
    (he : s.enum? name = some e) (wire : String) :
    Outcome.Decides (Fits s (.plain (.type name)) (.string wire))
      (IsReading s (.plain (.type name)) (.string wire)) (Schema.readMember e wire) := by
  by_cases hwire : wire ∈ e.members.map Prod.snd
  · obtain ⟨front, member, back, hsplit, hlast⟩ := EnumType.exists_last hwire
    have hmember : (member, wire) ∈ e.members := by
      rw [hsplit]
      exact List.mem_append_right front List.mem_cons_self
    rw [Schema.readMember, EnumType.member?_of_last hsplit hlast, hs.of_enum? he]
    exact .ok (.enum he hwire) (.enum he hmember)
  · rw [Schema.readMember, EnumType.member?_eq_none hwire]
    refine .error (fun hfits => ?_) trivial
    cases hfits with
    | enum he' hwire' =>
      obtain rfl := Option.some.inj (he.symm.trans he')
      exact hwire hwire'

/-- A defined type is an enum or a record, and not both. -/
theorem enum?_ne_record? {name : String} {e : EnumType} (he : s.enum? name = some e)
    (hr : s.record? name = some r) : False := by
  have hboth := (Schema.lookup_of_enum? he).symm.trans (Schema.lookup_of_record? hr)
  cases hboth

theorem decides_readDefined (hs : s.WellFormed) (hall : s.SupportsAll names) {name : String}
    (hname : name ∈ names) (v : Value) {reads : List (String × Reader)}
    (h : ∀ properties, v = .entity properties →
      Entrywise (Reader.Decides s names) properties reads) :
    Outcome.Decides (Fits s (.plain (.type name)) v) (IsReading s (.plain (.type name)) v)
      (readDefined s v name reads) := by
  unfold readDefined
  rcases hall name hname with ⟨e, he⟩ | ⟨r, casing, hr, hreadable⟩
  · rw [Schema.lookup_of_enum? he]
    cases v with
    | string wire => exact decides_readMember hs he wire
    | entity properties =>
      refine .error (fun hfits => ?_) trivial
      cases hfits with
      | record hr => exact enum?_ne_record? he hr
    | _ => exact .error nofun trivial
  · rw [Schema.lookup_of_record? hr]
    dsimp only
    rw [hreadable.convertible]
    cases v with
    | entity properties => exact decides_readRecord hs hr hreadable (h properties rfl)
    | string wire =>
      refine .error (fun hfits => ?_) trivial
      cases hfits with
      | enum he => exact enum?_ne_record? he hr
    | _ => exact .error nofun trivial

/-- The value has parts that are read for the form. -/
def Value.Opens : Value → Form → Prop
  | .array _, .list _ | .array _, .tuple _ | .array _, .fixed _ => True
  | .entity _, .mapping _ | .entity _, .type _ => True
  | _, _ => False

theorem decides_keepVariant (expected : Variant) (v : Value) :
    Outcome.Decides (Fits s (.plain (.variant expected)) v)
      (IsReading s (.plain (.variant expected)) v) (keepVariant expected v) := by
  unfold keepVariant
  by_cases h : v.variant? = some expected
  · rw [if_pos (beq_iff_eq.mpr h)]
    exact .ok (.variant h) (.variant h)
  · rw [if_neg (by simpa using h)]
    refine .error (fun hfits => ?_) trivial
    cases hfits with
    | variant hv => exact h hv

/-- A value whose parts are not read is decided about by its variant alone. -/
theorem decides_readLeaf (hs : s.WellFormed) (hall : s.SupportsAll names) {f : Form}
    (hf : Target.SupportedFormIn names f) {v : Value} (hv : ¬ v.Opens f) :
    Outcome.Decides (Fits s (.plain f) v) (IsReading s (.plain f) v) (readLeaf s v f) := by
  cases f with
  | label | union _ | unsupported _ => exact hf.elim
  | value => exact .ok (.value v) (.value v)
  | any => exact .ok (.any v) (.any v)
  | variant expected => exact decides_keepVariant expected v
  | type name =>
    refine decides_readDefined hs hall hf v ?_
    rintro properties rfl
    exact (hv trivial).elim
  | list _ | tuple _ | fixed _ | mapping _ =>
    refine .error (fun hfits => hv ?_) trivial
    cases hfits
    trivial
  | string => cases v with
    | string t => exact .ok (.string t) (.string t)
    | _ => exact .error nofun trivial
  | integer => cases v with
    | integer n => exact .ok (.integer n) (.integer n)
    | _ => exact .error nofun trivial
  | double => cases v with
    | double d => exact .ok (.double d) (.double d)
    | _ => exact .error nofun trivial
  | boolean => cases v with
    | boolean b => exact .ok (.boolean b) (.boolean b)
    | _ => exact .error nofun trivial
  | binary => cases v with
    | blob b => exact .ok (.binary b) (.binary b)
    | _ => exact .error nofun trivial
  | dateTime => cases v with
    | timestamp t => exact .ok (.dateTime t) (.dateTime t)
    | _ => exact .error nofun trivial
  | key => cases v with
    | key k => exact .ok (.key k) (.key k)
    | _ => exact .error nofun trivial
  | geoPoint => cases v with
    | geoPoint p => exact .ok (.geoPoint p) (.geoPoint p)
    | _ => exact .error nofun trivial

theorem decides_readEntity (hs : s.WellFormed) (hall : s.SupportsAll names) {f : Form}
    (hf : Target.SupportedFormIn names f) {reads : List (String × Reader)}
    (h : Entrywise (Reader.Decides s names) properties reads) :
    Outcome.Decides (Fits s (.plain f) (.entity properties))
      (IsReading s (.plain f) (.entity properties))
      (readEntity s (.entity properties) reads f) := by
  cases f with
  | mapping t =>
    refine (decides_readProperties hf h).map ⟨fun hfits => ?_, .mapping⟩ ?_
    · cases hfits with
      | mapping hfits => exact hfits
    · rintro entries ⟨hnames, hentries⟩
      exact .mapping hnames hentries
  | type name =>
    refine decides_readDefined hs hall hf (.entity properties) ?_
    intro properties' heq
    obtain rfl := Value.entity.inj heq
    exact h
  | _ => exact decides_readLeaf hs hall hf nofun

theorem decides_readArray (hs : s.WellFormed) (hall : s.SupportsAll names) {f : Form}
    (hf : Target.SupportedFormIn names f) {items : List Value} {reads : List Reader}
    (h : List.Forall₂ (Reader.Decides s names) items reads) :
    Outcome.Decides (Fits s (.plain f) (.array items)) (IsReading s (.plain f) (.array items))
      (readArray s (.array items) reads f) := by
  cases f with
  | list t =>
    refine (decides_readAll hf h).map ⟨fun hfits => ?_, .list⟩ ?_
    · cases hfits with
      | list hfits => exact hfits
    · rintro ns ⟨hlen, hns⟩
      exact .list hlen hns
  | tuple t =>
    refine (decides_readAll hf h).map ⟨fun hfits => ?_, .tuple⟩ ?_
    · cases hfits with
      | tuple hfits => exact hfits
    · rintro ns ⟨hlen, hns⟩
      exact .tuple hlen hns
  | fixed ts =>
    unfold readArray
    dsimp only
    rw [← h.length_eq]
    by_cases hlen : ts.length = items.length
    · rw [if_pos (beq_iff_eq.mpr hlen)]
      refine (decides_readEach h hf hlen).map ⟨fun hfits => ?_, .fixed hlen⟩ ?_
      · cases hfits with
        | fixed _ hfits => exact hfits
      · rintro ns ⟨hlength, hns⟩
        exact .fixed hlen hlength hns
    · rw [if_neg (by simpa using hlen)]
      refine .error (fun hfits => ?_) trivial
      cases hfits with
      | fixed hlength _ => exact hlen hlength
  | _ => exact decides_readLeaf hs hall hf nofun

/-! ### Values -/

/-- A value that is no option fits an optional form if it fits the form. -/
theorem decides_of_form {v : Value} (hv : v.variant? ≠ some .option) (t : Target)
    {x : Outcome Native}
    (h : Outcome.Decides (Fits s (.plain t.form) v) (IsReading s (.plain t.form) v) x) :
    Outcome.Decides (Fits s t v) (IsReading s t v) x := by
  cases t with
  | plain f => exact h
  | optional f =>
    refine h.mono ⟨fun hfits => ?_, .unwrapped hv⟩ fun n hn => .unwrapped hv hn
    cases hfits with
    | absent => exact absurd rfl hv
    | wrapped _ => exact absurd rfl hv
    | unwrapped _ hfits => exact hfits

mutual

/-- **The reader of a value decides what the value fits.** The induction is on the value: what is
read from a part of it is decided for the part, whatever the target is, so that records may mention
themselves. -/
theorem reader_decides (hs : s.WellFormed) (hall : s.SupportsAll names) :
    ∀ v : Value, Reader.Decides s names v (reader s v)
  | .null, .plain _, ht => decides_readLeaf hs hall ht id
  | .null, .optional f, ht => by
    cases f with
    | union _ => exact ht.elim
    | _ => exact .ok .absent .absent
  | .wrapped _, .plain _, ht => decides_readLeaf hs hall ht id
  | .wrapped v, .optional f, ht => by
    -- the target gets smaller with the value here, and no other optional form takes a wrapper
    have hinner : Outcome.Decides (Fits s (.optional f) (.wrapped v))
        (IsReading s (.optional f) (.wrapped v)) (reader s v (.plain f)) := by
      refine (reader_decides hs hall v (.plain f) ht).mono ⟨fun hfits => ?_, .wrapped⟩
        fun n hn => .wrapped hn
      cases hfits with
      | wrapped hfits => exact hfits
      | unwrapped hv _ => exact absurd rfl hv
    cases f with
    | union _ => exact ht.elim
    | _ => exact hinner
  | .entity properties, t, ht =>
    decides_of_form (by rintro ⟨⟩) t
      (decides_readEntity hs hall ht.form (readers_decide hs hall properties))
  | .array items, t, ht =>
    decides_of_form (by rintro ⟨⟩) t
      (decides_readArray hs hall ht.form (itemReaders_decide hs hall items))
  | .bare, t, ht | .boolean _, t, ht | .integer _, t, ht | .double _, t, ht | .timestamp _, t, ht
  | .key _, t, ht | .string _, t, ht | .blob _, t, ht | .geoPoint _, t, ht =>
    decides_of_form (by rintro ⟨⟩) t (decides_readLeaf hs hall ht.form id)

theorem readers_decide (hs : s.WellFormed) (hall : s.SupportsAll names) :
    ∀ properties, Entrywise (Reader.Decides s names) properties (readers s properties)
  | [] => .nil
  | (_, v) :: rest => .cons ⟨rfl, reader_decides hs hall v⟩ (readers_decide hs hall rest)

theorem itemReaders_decide (hs : s.WellFormed) (hall : s.SupportsAll names) :
    ∀ items, List.Forall₂ (Reader.Decides s names) items (itemReaders s items)
  | [] => .nil
  | v :: rest => .cons (reader_decides hs hall v) (itemReaders_decide hs hall rest)

end

/-- **Values are read exactly as the targets that they fit.** A supported target is read from the
values that fit it, and from no others. What is read is the object of the target that the value
stands for. Every other value is refused as a misfit: with another type of property, a missing
property or a text that is no member. -/
theorem fromValue_decides (hs : s.Built) {t : Target} (ht : t.IsSupported s) (v : Value) :
    ((∃ n, fromValue s v t = .ok n) ↔ Fits s t v) ∧
    (∀ n, fromValue s v t = .ok n → IsReading s t v n) ∧
    ∀ e, fromValue s v t = .error e → e.IsMisfit := by
  obtain ⟨names, htarget, hall⟩ := ht
  have hdecides := reader_decides hs.wellFormed hall v t htarget
  refine ⟨hdecides.exists_ok_iff, fun n hn => ?_, fun e he => ?_⟩
  · rw [← fromValue, hn] at hdecides
    cases hdecides with
    | ok _ hreading => exact hreading
  · rw [← fromValue, he] at hdecides
    cases hdecides with
    | error _ hmisfit => exact hmisfit

/-- Pets with a mood and a keeper, if they have one. -/
def petRecord : RecordType :=
  ⟨"Pet", some .camel,
    [⟨"mood", .plain (.type "Mood"), some "m", none, true⟩,
      ⟨"keeper", .optional (.type "Keeper"), some "k", some .null, true⟩],
    [.plain (.type "Mood"), .optional (.type "Keeper")]⟩

/-- Keepers with their pets. -/
def keeperRecord : RecordType :=
  ⟨"Keeper", some .camel, [⟨"pets", .plain (.list (.plain (.type "Pet"))), some "p", none, true⟩],
    [.plain (.list (.plain (.type "Pet")))]⟩

/-- The schema of keepers and pets. -/
def pets : Schema :=
  [("Mood", .enum ⟨"Mood", [("CALM", "calm")], [("CALM", "CALM")]⟩), ("Pet", .record petRecord),
    ("Keeper", .record keeperRecord)]

theorem built_pets : pets.Built := by
  have hmood : Schema.defineEnum [] "Mood" [("CALM", .integer 1)] none [("CALM", "calm")] =
      .ok (pets.take 1) := rfl
  have hpet : Schema.defineRecord (pets.take 1) ⟨"Pet", none, true, none,
      [⟨"mood", .plain (.type "Mood"), some "m", none, none, true⟩,
        ⟨"keeper", .optional (.type "Keeper"), some "k", some .null, none, true⟩]⟩ =
      .ok (pets.take 2) := rfl
  have hkeeper : Schema.defineRecord (pets.take 2) ⟨"Keeper", none, true, none,
      [⟨"pets", .plain (.list (.plain (.type "Pet"))), some "p", none, none, true⟩]⟩ =
      .ok pets := rfl
  exact .record (.record (.enum .empty hmood) hpet) hkeeper

theorem isSupported_keeper : Target.IsSupported pets (.plain (.type "Keeper")) := by
  refine ⟨["Mood", "Pet", "Keeper"], by simp [Target.SupportedIn, Target.SupportedFormIn], ?_⟩
  intro name hname
  simp only [List.mem_cons, List.not_mem_nil, or_false] at hname
  rcases hname with rfl | rfl | rfl
  · exact .inl ⟨_, rfl⟩
  · exact .inr ⟨petRecord, .camel, rfl, rfl, by decide, by decide, by
      simp [petRecord, Target.SupportedIn, Target.SupportedFormIn]⟩
  · exact .inr ⟨keeperRecord, .camel, rfl, rfl, by decide, by decide, by
      simp [keeperRecord, Target.SupportedIn, Target.SupportedFormIn]⟩

/-- A keeper of one pet with a mood, and with a property that no field reads. -/
def keeper (mood : String) : Value :=
  .entity [("p", .array [.entity [("m", .string mood)]]), ("x", .bare)]

/-- The keeper of a calm pet is read, with the default for what the pet does not say. A mood that is
none makes a misfit of the keeper. -/
theorem fromValue_decides_keeper :
    Fits pets (.plain (.type "Keeper")) (keeper "calm") ∧
    IsReading pets (.plain (.type "Keeper")) (keeper "calm")
      (.record "Keeper" [("pets", .list
        [.record "Pet" [("mood", .enum "Mood" "CALM"), ("keeper", .null)]])]) ∧
    ∃ e, fromValue pets (keeper "wild") (.plain (.type "Keeper")) = .error e ∧ e.IsMisfit := by
  obtain ⟨hfits, hreading, -⟩ := fromValue_decides built_pets isSupported_keeper (keeper "calm")
  obtain ⟨-, -, hmisfit⟩ := fromValue_decides built_pets isSupported_keeper (keeper "wild")
  exact ⟨hfits.mp ⟨_, rfl⟩, hreading _ rfl, _, rfl, hmisfit _ rfl⟩

end EntityStore
