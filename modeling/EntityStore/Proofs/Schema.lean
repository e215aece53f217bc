import EntityStore.Proofs.Association
import EntityStore.Proofs.Outcome
import EntityStore.Schema

/-!
# Schemas that come of definitions

A schema is built by one definition after the other. Every type in it is found under its own name,
and no two fields of a record share a name.

* `Schema.Built` — the schemas that come of definitions;
* `Schema.WellFormed` — what holds of all types in them;
* `Schema.defineRecord_eq_ok`, `Schema.defineEnum_eq_ok` — what a definition adds;
* `Schema.wellFormed_defineRecord`, `Schema.wellFormed_defineEnum` — each definition keeps it;
* `Schema.Built.wellFormed` — so it holds of every schema that is built;
* `RecordType.objects`, `instantiate_of_complete` — the instance that is made of arguments;
* `EnumType.member?_of_last`, `EnumType.member?_eq_none` — the member with a wire name.
-/

namespace EntityStore

/-- The type has the name under which it is defined, and the fields of a record have distinct
names. -/
def Definition.WellFormed (name : String) : Definition → Prop
  | .record r => r.name = name ∧ (r.fields.map Field.name).Nodup
  | .enum e => e.name = name

namespace Schema

/-- The schemas that come of definitions, one after the other. -/
inductive Built : Schema → Prop
  | empty : Built []
  | record {s t : Schema} {d : RecordDeclaration} :
      Built s → s.defineRecord d = .ok t → Built t
  | enum {s t : Schema} {name : String} {members : List (String × Native)}
      {casing? : Option String} {renames : List (String × String)} :
      Built s → s.defineEnum name members casing? renames = .ok t → Built t

/-- All types are well formed. -/
def WellFormed (s : Schema) : Prop :=
  ∀ e ∈ s, e.2.WellFormed e.1

/-! ### Looking up types -/

theorem lookup_of_record? {s : Schema} {name : String} {r : RecordType}
    (h : s.record? name = some r) : s.lookup name = some (.record r) := by
  unfold record? at h
  split at h
  · rename_i found hfound
    obtain rfl := Option.some.inj h
    exact hfound
  · cases h

theorem lookup_of_enum? {s : Schema} {name : String} {e : EnumType}
    (h : s.enum? name = some e) : s.lookup name = some (.enum e) := by
  unfold enum? at h
  split at h
  · rename_i found hfound
    obtain rfl := Option.some.inj h
    exact hfound
  · cases h

theorem WellFormed.of_record? {s : Schema} (hs : s.WellFormed) {name : String} {r : RecordType}
    (h : s.record? name = some r) : r.name = name ∧ (r.fields.map Field.name).Nodup :=
  hs (name, .record r) (mem_of_lookup (lookup_of_record? h))

theorem WellFormed.of_enum? {s : Schema} (hs : s.WellFormed) {name : String} {e : EnumType}
    (h : s.enum? name = some e) : e.name = name :=
  hs (name, .enum e) (mem_of_lookup (lookup_of_enum? h))

theorem wellFormed_assign {s : Schema} (hs : s.WellFormed) {name : String} {d : Definition}
    (hd : d.WellFormed name) : WellFormed (assign name d s) := by
  intro e he
  rcases mem_assign he with rfl | hold
  · exact hd
  · exact hs e hold

/-! ### Fields -/

theorem mem_addField {f g : Field} {fields : List Field} (h : g ∈ addField f fields) :
    g = f ∨ g ∈ fields := by
  induction fields with
  | nil => exact Or.inl (List.mem_singleton.mp h)
  | cons first rest ih =>
    rw [addField] at h
    split at h
    · rcases List.mem_cons.mp h with heq | hmem
      · exact Or.inl heq
      · exact Or.inr (List.mem_cons_of_mem _ hmem)
    · rcases List.mem_cons.mp h with heq | hmem
      · exact Or.inr (heq ▸ List.mem_cons_self)
      · rcases ih hmem with hnew | hold
        · exact Or.inl hnew
        · exact Or.inr (List.mem_cons_of_mem _ hold)

/-- A field that is added takes the place of the one with its name. -/
theorem nodup_addField (f : Field) {fields : List Field} (h : (fields.map Field.name).Nodup) :
    ((addField f fields).map Field.name).Nodup := by
  induction fields with
  | nil => exact List.nodup_cons.mpr ⟨List.not_mem_nil, List.nodup_nil⟩
  | cons first rest ih =>
    obtain ⟨hfirst, hrest⟩ := List.nodup_cons.mp h
    rw [addField]
    split
    · rename_i heq
      have hname : first.name = f.name := beq_iff_eq.mp heq
      rw [List.map_cons, ← hname]
      exact h
    · rename_i hne
      rw [List.map_cons]
      refine List.nodup_cons.mpr ⟨?_, ih hrest⟩
      intro hmem
      obtain ⟨g, hg, hname⟩ := List.mem_map.mp hmem
      rcases mem_addField hg with rfl | hold
      · exact hne (beq_iff_eq.mpr hname.symm)
      · exact hfirst (List.mem_map.mpr ⟨g, hold, hname⟩)

theorem nodup_foldl_addField (own : List Field) :
    ∀ fields : List Field, (fields.map Field.name).Nodup →
      ((own.foldl (fun done f => addField f done) fields).map Field.name).Nodup := by
  induction own with
  | nil => intro fields h; exact h
  | cons f rest ih =>
    intro fields h
    rw [List.foldl_cons]
    exact ih _ (nodup_addField f h)

/-! ### Definitions -/

/-- The fields that a declaration extends have distinct names. -/
theorem nodup_baseOf {s : Schema} (hs : s.WellFormed) {base? : Option String} {base : RecordType}
    (h : s.baseOf base? = .ok base) : (base.fields.map Field.name).Nodup := by
  unfold baseOf at h
  cases base? with
  | none =>
    obtain rfl := Except.ok.inj h
    exact List.nodup_nil
  | some name =>
    cases hfound : s.record? name with
    | none =>
      simp only [hfound] at h
      cases h
    | some r =>
      simp only [hfound] at h
      obtain rfl := Except.ok.inj h
      exact (hs.of_record? hfound).2

/-- What a record definition that succeeds adds to the schema. -/
theorem defineRecord_eq_ok {s t : Schema} {d : RecordDeclaration} (h : s.defineRecord d = .ok t) :
    ∃ (base : RecordType) (own : List Field) (casing? : Option Casing) (annotations : List Target),
      s.baseOf d.base? = .ok base ∧ t = assign d.name (.record ⟨d.name, casing?,
        own.foldl (fun done f => addField f done) base.fields, annotations⟩) s := by
  unfold defineRecord at h
  obtain ⟨base, hbase, h⟩ := bind_eq_ok h
  dsimp only at h
  split at h
  · cases h
  obtain ⟨own, _, h⟩ := bind_eq_ok h
  split at h
  · cases h
  split at h
  · obtain ⟨casing?, _, h⟩ := bind_eq_ok h
    exact ⟨base, own, casing?, _, hbase, (Except.ok.inj h).symm⟩
  · exact ⟨base, own, base.casing?, _, hbase, (Except.ok.inj h).symm⟩

theorem wellFormed_defineRecord {s t : Schema} (hs : s.WellFormed) {d : RecordDeclaration}
    (h : s.defineRecord d = .ok t) : t.WellFormed := by
  obtain ⟨base, own, casing?, annotations, hbase, rfl⟩ := defineRecord_eq_ok h
  exact wellFormed_assign hs ⟨rfl, nodup_foldl_addField own _ (nodup_baseOf hs hbase)⟩

/-- The enum that a definition adds. -/
def declaredEnum (name : String) (members : List (String × Native))
    (renames : List (String × String)) (casing : Casing) : EnumType where
  name := name
  members := (canonicalMembers members).1.map fun m => (m.1, memberWireName renames casing m.1)
  names := (canonicalMembers members).2

/-- What an enum definition that succeeds adds to the schema. -/
theorem defineEnum_eq_ok {s t : Schema} {name : String} {members : List (String × Native)}
    {casing? : Option String} {renames : List (String × String)}
    (h : s.defineEnum name members casing? renames = .ok t) :
    ∃ casing, casingOrCamel casing? = .ok casing ∧
      (∀ n ∈ renames.map Prod.fst, n ∈ (canonicalMembers members).2.map Prod.fst) ∧
      t = assign name (.enum (declaredEnum name members renames casing)) s := by
  unfold defineEnum at h
  obtain ⟨casing, hcasing, h⟩ := bind_eq_ok h
  dsimp only at h
  split at h
  · cases h
  rename_i hunknown
  refine ⟨casing, hcasing, fun n hn => ?_, (Except.ok.inj h).symm⟩
  have hnone : (renames.map Prod.fst).filter (fun m =>
      !(canonicalMembers members).2.any (·.1 == m)) = [] := by
    rw [Bool.not_eq_true, Bool.not_eq_false'] at hunknown
    exact List.isEmpty_iff.mp hunknown
  simpa using List.filter_eq_nil_iff.mp hnone n hn

theorem wellFormed_defineEnum {s t : Schema} (hs : s.WellFormed) {name : String}
    {members : List (String × Native)} {casing? : Option String} {renames : List (String × String)}
    (h : s.defineEnum name members casing? renames = .ok t) : t.WellFormed := by
  obtain ⟨casing, _, _, rfl⟩ := defineEnum_eq_ok h
  exact wellFormed_assign hs rfl

/-- **Every schema that is built is well formed.** -/
theorem Built.wellFormed {s : Schema} (h : s.Built) : s.WellFormed := by
  induction h with
  | empty =>
    intro e he
    cases he
  | record _ hdefine ih => exact wellFormed_defineRecord ih hdefine
  | enum _ hdefine ih => exact wellFormed_defineEnum ih hdefine

end Schema

/-! ### Instances -/

/-- The objects in the fields of an instance: the argument of each field, and its default where it
has none or is not given at construction. -/
def RecordType.objects (r : RecordType) (arguments : List (String × Native)) :
    List (String × Native) :=
  r.fields.filterMap fun f =>
    ((if f.isInit then arguments.lookup f.name else none).or f.default?).map (f.name, ·)

/-- Every field of an instance has its argument or its default. -/
theorem lookup_objects {r : RecordType} (hnames : (r.fields.map Field.name).Nodup) {f : Field}
    (hf : f ∈ r.fields) (arguments : List (String × Native)) :
    (r.objects arguments).lookup f.name =
      (if f.isInit then arguments.lookup f.name else none).or f.default? :=
  lookup_filterMap Field.name _ hnames hf

theorem fieldObject_eq_ok {arguments : List (String × Native)} {f : Field}
    {entry : Option (String × Native)} (h : Schema.fieldObject arguments f = .ok entry) :
    entry = ((if f.isInit then arguments.lookup f.name else none).or f.default?).map
      (f.name, ·) := by
  unfold Schema.fieldObject at h
  split at h
  · rename_i n d hgiven
    rw [hgiven]
    exact (Except.ok.inj h).symm
  · rename_i hgiven hdefault
    rw [hgiven, hdefault]
    exact (Except.ok.inj h).symm
  · rename_i hgiven hdefault
    rw [hgiven, hdefault]
    split at h
    · cases h
    · exact (Except.ok.inj h).symm

/-- A field that must be given is given. -/
theorem fieldObject_of_complete {arguments : List (String × Native)} {f : Field}
    (h : f.isInit = true → arguments.lookup f.name = none → f.default?.isSome = true) :
    ∃ entry, Schema.fieldObject arguments f = .ok entry := by
  unfold Schema.fieldObject
  split
  · exact ⟨_, rfl⟩
  · exact ⟨_, rfl⟩
  · rename_i hgiven hdefault
    cases hinit : f.isInit with
    | false => exact ⟨none, rfl⟩
    | true =>
      rw [hinit, if_pos rfl] at hgiven
      have hsome := h hinit hgiven
      rw [hdefault] at hsome
      cases hsome

theorem mapM_fieldObject {r : RecordType} {arguments : List (String × Native)}
    {entries : List (Option (String × Native))}
    (h : r.fields.mapM (Schema.fieldObject arguments) = .ok entries) :
    entries.filterMap (·) = r.objects arguments := by
  have hentries : entries = r.fields.map fun f =>
      ((if f.isInit then arguments.lookup f.name else none).or f.default?).map (f.name, ·) := by
    symm
    rw [← List.forall₂_eq_eq_eq, List.forall₂_map_left_iff]
    exact (mapM_eq_ok_iff.mp h).imp fun _ _ hentry => (fieldObject_eq_ok hentry).symm
  rw [hentries, List.filterMap_map]
  rfl

/-- There is an instance with arguments for fields alone, if the fields that must be given are. -/
theorem instantiate_of_complete {s : Schema} {name : String} {r : RecordType} (hr : s.record? name = some r)
    {arguments : List (String × Native)}
    (hknown : ∀ a ∈ arguments, ∃ f ∈ r.fields, f.isInit = true ∧ f.name = a.1)
    (hcomplete : ∀ f ∈ r.fields, f.isInit = true → arguments.lookup f.name = none →
      f.default?.isSome = true) :
    s.instantiate name arguments = .ok (.record name (r.objects arguments)) := by
  have hall : (arguments.all fun a => r.fields.any fun f => f.isInit && f.name == a.1) = true := by
    refine List.all_eq_true.mpr fun a ha => ?_
    obtain ⟨f, hf, hinit, hname⟩ := hknown a ha
    refine List.any_eq_true.mpr ⟨f, hf, ?_⟩
    rw [hinit, hname]
    exact beq_self_eq_true a.1
  obtain ⟨entries, hentries⟩ := exists_mapM_iff.mpr fun f hf =>
    fieldObject_of_complete (hcomplete f hf)
  rw [Schema.instantiate, hr]
  dsimp only
  rw [if_pos hall, hentries, ← mapM_fieldObject hentries]
  rfl

/-! ### Members of enums -/

namespace EnumType

variable {e : EnumType} {front back : List (String × String)} {member wire : String}

/-- The last member with a wire name is the one that it stands for. -/
theorem member?_of_last (h : e.members = front ++ (member, wire) :: back)
    (hlast : wire ∉ back.map Prod.snd) : e.member? wire = some member := by
  have hback : back.reverse.find? (·.2 == wire) = none := by
    refine List.find?_eq_none.mpr fun m hm => ?_
    rw [beq_iff_eq]
    rintro rfl
    exact hlast (List.mem_map_of_mem (List.mem_reverse.mp hm))
  rw [member?, h, List.reverse_append, List.reverse_cons, List.append_assoc, List.find?_append,
    hback]
  simp

theorem member?_eq_none (h : wire ∉ e.members.map Prod.snd) : e.member? wire = none := by
  rw [member?, Option.map_eq_none_iff, List.find?_eq_none]
  intro m hm
  rw [beq_iff_eq]
  rintro rfl
  exact h (List.mem_map_of_mem (List.mem_reverse.mp hm))

/-- Of the members with a wire name, one is the last. -/
theorem exists_last {members : List (String × String)} (h : wire ∈ members.map Prod.snd) :
    ∃ front member back, members = front ++ (member, wire) :: back ∧
      wire ∉ back.map Prod.snd := by
  induction members with
  | nil => cases h
  | cons m rest ih =>
    by_cases hrest : wire ∈ rest.map Prod.snd
    · obtain ⟨front, member, back, hsplit, hlast⟩ := ih hrest
      exact ⟨m :: front, member, back, congrArg (m :: ·) hsplit, hlast⟩
    · obtain ⟨member, w⟩ := m
      rcases List.mem_cons.mp h with heq | hmem
      · obtain rfl : wire = w := heq
        exact ⟨[], member, rest, rfl, hrest⟩
      · exact absurd hmem hrest

end EnumType

end EntityStore
