import EntityStore.Proofs.Convert.RoundTrip

/-!
# The fields of a record, one after the other

Each field uses up the property that it is read from. A property is so read by the first of the
fields that are stored under its name, and the others find none.

* `readField` — what one field gives, when some names are used up;
* `readFields_cons_used`, `readFields_append` — the fields are read one by one;
* `names_of_readFields`, `mem_names_of_required` — which arguments come of them;
* `RecordField.Fails`, `FailsFirst` — the field that fails, and the first one that does;
* `readFields_eq_error_iff` — the fields fail with the error of the first one that fails;
* `fromValue_record` — a record is the instance of its arguments;
* `fromValue_record_eq_error_iff` — a record is refused with the error of its first field that fails.
-/

namespace EntityStore

variable {s : Schema} {properties : List (String × Value)}

/-! ### One field -/

/-- The refusal of a field whose property is missing, with similar names among the properties that
are not used up. -/
def missingProperty (properties : List (String × Value)) (used : List String) (f : RecordField) :
    Error :=
  .failure (.missingProperty f.wireName
    (Text.closeMatches f.wireName ((unassignAll used properties).map Prod.fst) 3))

/-- What a field gives when the names in `used` are used up: the object that is read from its
property, or none for a field that need not have one. -/
def readField (s : Schema) (properties : List (String × Value)) (used : List String)
    (f : RecordField) : Outcome (Option Native) :=
  match (unassignAll used properties).lookup f.wireName with
  | some v => (fromValue s v f.type).map some
  | none => if f.required then .error (missingProperty properties used f) else .ok none

theorem readField_of_present {used : List String} {f : RecordField} {v : Value}
    (h : (unassignAll used properties).lookup f.wireName = some v) :
    readField s properties used f = (fromValue s v f.type).map some := by
  rw [readField, h]

theorem readField_of_absent {used : List String} {f : RecordField}
    (h : (unassignAll used properties).lookup f.wireName = none) :
    readField s properties used f =
      if f.required then .error (missingProperty properties used f) else .ok none := by
  rw [readField, h]

/-- The readers of properties are found under the names of these. -/
theorem lookup_readers (properties : List (String × Value)) (name : String) :
    (readers s properties).lookup name = (properties.lookup name).map (reader s) := by
  induction properties with
  | nil => rfl
  | cons p rest ih =>
    obtain ⟨n, v⟩ := p
    rw [readers, List.lookup_cons, List.lookup_cons, ih]
    cases name == n <;> rfl

theorem unassign_readers (name : String) (properties : List (String × Value)) :
    unassign name (readers s properties) = readers s (unassign name properties) := by
  rw [readers_map, readers_map, unassign, unassign, List.filter_map]
  rfl

/-- The first field is read, and the others are read when its name is used up. -/
theorem readFields_cons_used (f : RecordField) (rest : List RecordField) (used : List String) :
    Schema.readFields (f :: rest) (readers s (unassignAll used properties)) =
      (readField s properties used f).bind fun given =>
        (Schema.readFields rest
          (readers s (unassignAll (used ++ [f.wireName]) properties))).map
            ((given.toList.map (f.name, ·)) ++ ·) := by
  have hfound := lookup_readers (s := s) (unassignAll used properties) f.wireName
  rw [← unassign_unassignAll]
  cases hlookup : (unassignAll used properties).lookup f.wireName with
  | some v =>
    rw [hlookup, Option.map_some] at hfound
    rw [readFields_cons hfound, readField_of_present hlookup, unassign_readers]
    show (fromValue s v f.type).bind _ = _
    cases fromValue s v f.type <;> rfl
  | none =>
    rw [hlookup, Option.map_none] at hfound
    -- no property has the name, so that using it up takes nothing from the other fields
    have hunused : unassign f.wireName (unassignAll used properties) =
        unassignAll used properties := unassign_of_not_mem (lookup_eq_none_iff.mp hlookup)
    rw [Schema.readFields, hfound, readField_of_absent hlookup, hunused]
    have hnames : (readers s (unassignAll used properties)).map Prod.fst =
        (unassignAll used properties).map Prod.fst := by
      rw [readers_map, List.map_map]
      rfl
    dsimp only
    rw [hnames]
    cases f.required with
    | true => rfl
    | false =>
      show _ = (Schema.readFields rest (readers s (unassignAll used properties))).map ([] ++ ·)
      cases Schema.readFields rest (readers s (unassignAll used properties)) <;> rfl

/-! ### All fields -/

/-- The fields behind others are read when the names of these are used up. -/
theorem readFields_append {fields : List RecordField} {rest : List RecordField} :
    ∀ {used : List String} {arguments : List (String × Native)},
      Schema.readFields (fields ++ rest) (readers s (unassignAll used properties)) =
        .ok arguments →
      ∃ front back, arguments = front ++ back ∧
        Schema.readFields fields (readers s (unassignAll used properties)) = .ok front ∧
        Schema.readFields rest (readers s (unassignAll
          (used ++ fields.map RecordField.wireName) properties)) = .ok back := by
  induction fields with
  | nil =>
    intro used arguments h
    refine ⟨[], arguments, rfl, rfl, ?_⟩
    rw [List.map_nil, List.append_nil]
    exact h
  | cons f fields ih =>
    intro used arguments h
    rw [List.cons_append, readFields_cons_used] at h
    obtain ⟨given, rest', hgiven, hrest, rfl⟩ := both_eq_ok h
    obtain ⟨front, back, rfl, hfront, hback⟩ := ih hrest
    refine ⟨given.toList.map (f.name, ·) ++ front, back, ?_, ?_, ?_⟩
    · rw [List.append_assoc]
    · rw [readFields_cons_used, hgiven]
      show (Schema.readFields fields _).map _ = _
      rw [hfront]
      rfl
    · rw [List.map_cons, List.append_cons]
      exact hback

/-- The arguments stand in the order of their fields. -/
theorem names_of_readFields {fields : List RecordField} :
    ∀ {used : List String} {arguments : List (String × Native)},
      Schema.readFields fields (readers s (unassignAll used properties)) = .ok arguments →
      (arguments.map Prod.fst).Sublist (fields.map RecordField.name) := by
  induction fields with
  | nil =>
    intro used arguments h
    obtain rfl := Except.ok.inj h
    exact List.Sublist.refl []
  | cons f rest ih =>
    intro used arguments h
    rw [readFields_cons_used] at h
    obtain ⟨given, back, _, hback, rfl⟩ := both_eq_ok h
    rw [List.map_append, List.map_map, List.map_cons]
    cases given with
    | none => exact (ih hback).cons f.name
    | some n => exact (ih hback).cons_cons f.name

/-- A field that must be there has an argument. -/
theorem mem_names_of_required {fields : List RecordField} {f : RecordField} (hf : f ∈ fields)
    (hrequired : f.required = true) :
    ∀ {used : List String} {arguments : List (String × Native)},
      Schema.readFields fields (readers s (unassignAll used properties)) = .ok arguments →
      f.name ∈ arguments.map Prod.fst := by
  induction fields with
  | nil => cases hf
  | cons g rest ih =>
    intro used arguments h
    rw [readFields_cons_used] at h
    obtain ⟨given, back, hgiven, hback, rfl⟩ := both_eq_ok h
    rw [List.map_append, List.mem_append]
    rcases List.mem_cons.mp hf with rfl | hmem
    · left
      cases hlookup : (unassignAll used properties).lookup f.wireName with
      | none =>
        rw [readField_of_absent hlookup, if_pos hrequired] at hgiven
        cases hgiven
      | some v =>
        rw [readField_of_present hlookup] at hgiven
        obtain ⟨n, _, rfl⟩ := map_eq_ok hgiven
        exact List.mem_singleton_self f.name
    · exact Or.inr (ih hmem hback)

/-! ### Fields that fail -/

/-- A field fails when the names in `used` are used up: what is stored under its name is not of its
type, or its name is missing and the field must be there. -/
inductive RecordField.Fails (s : Schema) (properties : List (String × Value)) (used : List String)
    (f : RecordField) : Error → Prop
  | unfit {v : Value} {e : Error} (hname : f.wireName ∉ used)
      (hv : properties.lookup f.wireName = some v) (he : fromValue s v f.type = .error e) :
      Fails s properties used f e
  | missing (hnone : f.wireName ∈ used ∨ properties.lookup f.wireName = none)
      (hrequired : f.required = true) :
      Fails s properties used f (missingProperty properties used f)

theorem fails_iff {used : List String} {f : RecordField} {e : Error} :
    f.Fails s properties used e ↔ readField s properties used f = .error e := by
  have hlookup := lookup_unassignAll used properties f.wireName
  constructor
  · intro h
    cases h with
    | unfit hname hv he =>
      rw [if_neg hname, hv] at hlookup
      rw [readField_of_present hlookup, he]
      rfl
    | missing hnone hrequired =>
      have habsent : (unassignAll used properties).lookup f.wireName = none := by
        rw [hlookup]
        rcases hnone with hused | hnone
        · rw [if_pos hused]
        · rw [hnone, ite_self]
      rw [readField_of_absent habsent, if_pos hrequired]
  · intro h
    by_cases hname : f.wireName ∈ used
    · rw [if_pos hname] at hlookup
      rw [readField_of_absent hlookup] at h
      split at h
      · rename_i hrequired
        obtain rfl := Except.error.inj h
        exact .missing (.inl hname) hrequired
      · cases h
    · rw [if_neg hname] at hlookup
      cases hv : properties.lookup f.wireName with
      | some v =>
        rw [readField_of_present (hlookup.trans hv)] at h
        exact .unfit hname hv (map_eq_error h)
      | none =>
        rw [readField_of_absent (hlookup.trans hv)] at h
        split at h
        · rename_i hrequired
          obtain rfl := Except.error.inj h
          exact .missing (.inr hv) hrequired
        · cases h

/-- One of the fields fails with the error, and none of the fields before it fails. Behind a field,
its name is used up. -/
def FailsFirst (s : Schema) (properties : List (String × Value)) (used : List String)
    (fields : List RecordField) (e : Error) : Prop :=
  ∃ front f back, fields = front ++ f :: back ∧
    (∀ before g after, front = before ++ g :: after →
      ∀ e', ¬ g.Fails s properties (used ++ before.map RecordField.wireName) e') ∧
    f.Fails s properties (used ++ front.map RecordField.wireName) e

/-- The first field fails, or one of the others does. -/
theorem failsFirst_cons {used : List String} {f : RecordField} {rest : List RecordField}
    {e : Error} :
    FailsFirst s properties used (f :: rest) e ↔
      f.Fails s properties used e ∨
        (∀ e', ¬ f.Fails s properties used e') ∧
          FailsFirst s properties (used ++ [f.wireName]) rest e := by
  constructor
  · rintro ⟨front, g, back, hsplit, hfront, hg⟩
    cases front with
    | nil =>
      obtain ⟨rfl, rfl⟩ := List.cons.inj hsplit
      left
      simpa using hg
    | cons first front =>
      obtain ⟨rfl, rfl⟩ := List.cons.inj hsplit
      refine Or.inr ⟨fun e' => ?_, front, g, back, rfl, ?_, ?_⟩
      · simpa using hfront [] f front rfl e'
      · intro before h after hbefore e'
        have hnot := hfront (f :: before) h after (congrArg (f :: ·) hbefore) e'
        rwa [List.map_cons, List.append_cons] at hnot
      · rwa [List.map_cons, List.append_cons] at hg
  · rintro (hf | ⟨hf, front, g, back, rfl, hfront, hg⟩)
    · refine ⟨[], f, rest, rfl, ?_, by simpa using hf⟩
      intro before g after hnil
      simp at hnil
    · refine ⟨f :: front, g, back, rfl, ?_, ?_⟩
      · intro before h after hbefore e'
        cases before with
        | nil =>
          obtain ⟨rfl, rfl⟩ := List.cons.inj hbefore
          simpa using hf e'
        | cons first before =>
          obtain ⟨rfl, htail⟩ := List.cons.inj hbefore
          rw [List.map_cons, List.append_cons]
          exact hfront before h after htail e'
      · rw [List.map_cons, List.append_cons]
        exact hg

/-- **Fields fail with the error of the first one that fails.** -/
theorem readFields_eq_error_iff {fields : List RecordField} {e : Error} :
    ∀ {used : List String},
      Schema.readFields fields (readers s (unassignAll used properties)) = .error e ↔
        FailsFirst s properties used fields e := by
  induction fields with
  | nil =>
    intro used
    refine ⟨nofun, ?_⟩
    rintro ⟨front, f, back, hsplit, -⟩
    simp at hsplit
  | cons f rest ih =>
    intro used
    rw [readFields_cons_used, failsFirst_cons, ← ih, fails_iff]
    simp only [fails_iff]
    cases hf : readField s properties used f with
    | error e' => simp [Except.bind]
    | ok given =>
      simp only [Except.bind, reduceCtorEq, not_false_eq_true, implies_true, true_and, false_or]
      constructor
      · exact map_eq_error
      · intro hrest
        rw [hrest]
        rfl

/-! ### Records -/

/-- The fields that take part in conversions are those that are given at construction. -/
theorem recordFields_eq_ok {r : RecordType} {casing : Casing} {fields : List RecordField}
    (h : s.recordFields r casing = .ok fields) :
    fields = (r.fields.filter (·.isInit)).map (Field.stored casing) := by
  rw [Schema.recordFields] at h
  split at h
  · exact (Except.ok.inj h).symm
  · cases h

/-- Each of them is a field of the record. -/
theorem exists_field {r : RecordType} {casing : Casing} {fields : List RecordField}
    (hfields : s.recordFields r casing = .ok fields) {f : RecordField} (hf : f ∈ fields) :
    ∃ field ∈ r.fields, field.isInit = true ∧ f = field.stored casing := by
  rw [recordFields_eq_ok hfields] at hf
  obtain ⟨field, hfield, rfl⟩ := List.mem_map.mp hf
  obtain ⟨hmem, hinit⟩ := List.mem_filter.mp hfield
  exact ⟨field, hmem, hinit, rfl⟩

/-- The fields of a record fill an instance. -/
theorem instantiate_of_readFields {name : String} {r : RecordType} {casing : Casing}
    {fields : List RecordField} (hr : s.record? name = some r)
    (hfields : s.recordFields r casing = .ok fields) {arguments : List (String × Native)}
    (h : Schema.readFields fields (readers s properties) = .ok arguments) :
    s.instantiate name arguments = .ok (.record name (r.objects arguments)) := by
  obtain rfl := recordFields_eq_ok hfields
  rw [← unassignAll_nil properties] at h
  refine instantiate_of_complete hr ?_ ?_
  · intro a ha
    have hname := (names_of_readFields h).subset (List.mem_map_of_mem ha)
    obtain ⟨g, hg, hgname⟩ := List.mem_map.mp hname
    obtain ⟨f, hf, hinit, rfl⟩ := exists_field hfields hg
    exact ⟨f, hf, hinit, hgname⟩
  · intro f hf hinit hnone
    have hstored : f.stored casing ∈ (r.fields.filter (·.isInit)).map (Field.stored casing) :=
      List.mem_map_of_mem (List.mem_filter.mpr ⟨hf, hinit⟩)
    rw [← Option.isNone_eq_false_iff]
    by_contra hdefault
    have hrequired : (f.stored casing).required = true := by
      simpa [Field.stored, Field.isRequired] using hdefault
    exact lookup_eq_none_iff.mp hnone (mem_names_of_required hstored hrequired h)

/-- An entity is read as a record from the readers of its properties. -/
theorem fromValue_record {name : String} {r : RecordType} {casing : Casing}
    {fields : List RecordField} (hs : s.WellFormed) (hr : s.record? name = some r)
    (hcasing : r.casing? = some casing) (hfields : s.recordFields r casing = .ok fields) {t : Target}
    (ht : t.form = .type name) :
    fromValue s (.entity properties) t =
      (Schema.readFields fields (readers s properties)).map fun arguments =>
        .record name (r.objects arguments) := by
  have hread : fromValue s (.entity properties) t =
      readEntity s (.entity properties) (readers s properties) t.form := rfl
  rw [hread, ht]
  show readDefined s (.entity properties) name (readers s properties) = _
  rw [readDefined, Schema.lookup_of_record? hr]
  simp only [hcasing]
  rw [Schema.readRecord, hfields, (hs.of_record? hr).1]
  show (Schema.readFields fields (readers s properties)).bind (s.instantiate name) = _
  cases h : Schema.readFields fields (readers s properties) with
  | error e => rfl
  | ok arguments => exact instantiate_of_readFields hr hfields h

/-- **A record is refused with the error of its first field that fails.** -/
theorem fromValue_record_eq_error_iff {name : String} {r : RecordType} {casing : Casing}
    {fields : List RecordField} (hs : s.WellFormed) (hr : s.record? name = some r)
    (hcasing : r.casing? = some casing) (hfields : s.recordFields r casing = .ok fields) {t : Target}
    (ht : t.form = .type name) {e : Error} :
    fromValue s (.entity properties) t = .error e ↔ FailsFirst s properties [] fields e := by
  rw [fromValue_record hs hr hcasing hfields ht, ← readFields_eq_error_iff, unassignAll_nil]
  constructor
  · exact map_eq_error
  · intro h
    rw [h]
    rfl

end EntityStore
