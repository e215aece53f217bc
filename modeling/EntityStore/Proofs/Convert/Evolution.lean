import EntityStore.Proofs.Convert.Decision
import EntityStore.Proofs.Convert.Fields

/-!
# Entities that change while their readers stay

A record looks at the properties of its own fields and at no others. What is stored may get more
properties, or list them in another order, at every place where a record is read: nothing changes
for who reads it.

* `Outcome.Matches` — outcomes that differ in suggestions at most;
* `Evolves` — values that differ where a record does not look;
* `Evolves.of_perm` — more properties, in any order;
* `matches_readAll`, `matches_readEach`, `matches_readProperties`, `matches_readFields` — parts;
* `Evolves.matches` — such values are read alike;
* `fromValue_evolves` — they are read alike, and a record fails with its first field that fails.
-/

namespace EntityStore

variable {s : Schema}

/-! ### Outcomes but for suggestions -/

/-- The error without the names that it suggests. -/
def Error.unsuggested : Error → Error
  | .failure (.missingProperty name _) => .failure (.missingProperty name [])
  | e => e

/-- The outcomes are the same result, or errors that differ in their suggestions at most. -/
def Outcome.Matches {α : Type} (x y : Outcome α) : Prop :=
  x.mapError Error.unsuggested = y.mapError Error.unsuggested

namespace Outcome.Matches

variable {α β : Type} {x y : Outcome α}

theorem refl (x : Outcome α) : Outcome.Matches x x := rfl

theorem bind {f g : α → Outcome β} (h : Outcome.Matches x y)
    (hfg : ∀ a, Outcome.Matches (f a) (g a)) : Outcome.Matches (x.bind f) (y.bind g) := by
  cases x with
  | error e =>
    cases y with
    | error e' =>
      have herror : e.unsuggested = e'.unsuggested := Except.error.inj h
      exact congrArg Except.error herror
    | ok b => cases h
  | ok a =>
    cases y with
    | error e => cases h
    | ok b =>
      obtain rfl : a = b := Except.ok.inj h
      exact hfg a

theorem map (f : α → β) (h : Outcome.Matches x y) : Outcome.Matches (x.map f) (y.map f) := by
  have hbind : ∀ z : Outcome α, z.map f = z.bind fun a => .ok (f a) := fun z => by cases z <;> rfl
  rw [hbind, hbind]
  exact h.bind fun a => refl _

end Outcome.Matches

/-! ### Values that differ where no record looks -/

/-- The second value is the first one, changed at places where a record is read: there, the
properties of the fields that are read are the same or changed in this way themselves, and the
others can be any. -/
inductive Evolves (s : Schema) : Target → Value → Value → Prop
  | same (t : Target) (v : Value) : Evolves s t v v
  | wrapped {f : Form} {v w : Value} (h : Evolves s (.plain f) v w) :
      Evolves s (.optional f) (.wrapped v) (.wrapped w)
  | unwrapped {f : Form} {v w : Value} (hv : v.variant? ≠ some .option)
      (h : Evolves s (.plain f) v w) : Evolves s (.optional f) v w
  | list {t : Target} {vs ws : List Value} (hlen : vs.length = ws.length)
      (h : ∀ p ∈ vs.zip ws, Evolves s t p.1 p.2) :
      Evolves s (.plain (.list t)) (.array vs) (.array ws)
  | tuple {t : Target} {vs ws : List Value} (hlen : vs.length = ws.length)
      (h : ∀ p ∈ vs.zip ws, Evolves s t p.1 p.2) :
      Evolves s (.plain (.tuple t)) (.array vs) (.array ws)
  | fixed {ts : List Target} {vs ws : List Value} (hlen : vs.length = ws.length)
      (h : ∀ p ∈ ts.zip (vs.zip ws), Evolves s p.1 p.2.1 p.2.2) :
      Evolves s (.plain (.fixed ts)) (.array vs) (.array ws)
  | mapping {t : Target} {ps qs : List (String × Value)}
      (hnames : ps.map Prod.fst = qs.map Prod.fst)
      (h : ∀ p ∈ ps.zip qs, Evolves s t p.1.2 p.2.2) :
      Evolves s (.plain (.mapping t)) (.entity ps) (.entity qs)
  | record {name : String} {r : RecordType} {casing : Casing} {ps qs : List (String × Value)}
      (hr : s.record? name = some r) (hcasing : r.casing? = some casing)
      (habsent : ∀ f ∈ r.fields, f.isInit = true →
        (ps.lookup (f.wireName casing) = none ↔ qs.lookup (f.wireName casing) = none))
      (h : ∀ f ∈ r.fields, f.isInit = true → ∀ v w, ps.lookup (f.wireName casing) = some v →
        qs.lookup (f.wireName casing) = some w → Evolves s f.type v w) :
      Evolves s (.plain (.type name)) (.entity ps) (.entity qs)

namespace Evolves

/-- Properties that no field of the record reads may be added, and all may be put in any order.
`kept` has what comes of the properties that were there. -/
theorem of_perm {name : String} {r : RecordType} {casing : Casing}
    {ps qs : List (String × Value)} (kept added : List (String × Value))
    (hr : s.record? name = some r) (hcasing : r.casing? = some casing)
    (hnames : ps.map Prod.fst = kept.map Prod.fst)
    (hkept : ∀ f ∈ r.fields, f.isInit = true → ∀ v w, ps.lookup (f.wireName casing) = some v →
      kept.lookup (f.wireName casing) = some w → Evolves s f.type v w)
    (hadded : ∀ f ∈ r.fields, f.isInit = true → f.wireName casing ∉ added.map Prod.fst)
    (hperm : (kept ++ added).Perm qs) (hnodup : (qs.map Prod.fst).Nodup) :
    Evolves s (.plain (.type name)) (.entity ps) (.entity qs) := by
  have hfound : ∀ f ∈ r.fields, f.isInit = true →
      qs.lookup (f.wireName casing) = kept.lookup (f.wireName casing) := by
    intro f hf hinit
    have hnodup' : ((kept ++ added).map Prod.fst).Nodup :=
      (hperm.map Prod.fst).nodup_iff.mpr hnodup
    have hnone : added.lookup (f.wireName casing) = none :=
      lookup_eq_none_iff.mpr (hadded f hf hinit)
    rw [← lookup_of_perm hperm hnodup', List.lookup_append, hnone, Option.or_none]
  refine record hr hcasing (fun f hf hinit => ?_) fun f hf hinit v w hv hw => ?_
  · rw [hfound f hf hinit, lookup_eq_none_iff, lookup_eq_none_iff, hnames]
  · rw [hfound f hf hinit] at hw
    exact hkept f hf hinit v w hv hw

/-- The variant stays. -/
theorem variant?_eq {f : Form} {v w : Value} (h : Evolves s (.plain f) v w) :
    v.variant? = w.variant? := by
  cases h <;> rfl

end Evolves

/-! ### Parts of values -/

theorem matches_readAll {t : Target} {vs ws : List Value}
    (h : List.Forall₂ (fun v w => Outcome.Matches (reader s v t) (reader s w t)) vs ws) :
    Outcome.Matches (readAll (itemReaders s vs) t) (readAll (itemReaders s ws) t) := by
  induction h with
  | nil => exact .refl _
  | cons hvw _ ih =>
    rw [itemReaders, itemReaders, readAll_cons, readAll_cons]
    exact hvw.bind fun n => ih.map (n :: ·)

theorem matches_readEach {ts : List Target} :
    ∀ {vs ws : List Value}, vs.length = ws.length →
      (∀ p ∈ ts.zip (vs.zip ws), Outcome.Matches (reader s p.2.1 p.1) (reader s p.2.2 p.1)) →
      Outcome.Matches (readEach (itemReaders s vs) ts) (readEach (itemReaders s ws) ts) := by
  induction ts with
  | nil =>
    intro vs ws _ _
    cases vs <;> cases ws <;> exact .refl _
  | cons t ts ih =>
    intro vs ws hlen h
    cases vs with
    | nil =>
      obtain rfl := List.eq_nil_of_length_eq_zero hlen.symm
      exact .refl _
    | cons v vs =>
      cases ws with
      | nil => cases hlen
      | cons w ws =>
        obtain ⟨hvw, hrest⟩ := List.forall_mem_cons.mp h
        rw [itemReaders, itemReaders, readEach_cons, readEach_cons]
        exact hvw.bind fun n => (ih (Nat.succ.inj hlen) hrest).map (n :: ·)

theorem matches_readProperties {t : Target} {ps qs : List (String × Value)}
    (h : Entrywise (fun v w => Outcome.Matches (reader s v t) (reader s w t)) ps qs) :
    Outcome.Matches (readProperties (readers s ps) t) (readProperties (readers s qs) t) := by
  induction h with
  | nil => exact .refl _
  | @cons p q ps qs hpq _ ih =>
    obtain ⟨name, v⟩ := p
    obtain ⟨name', w⟩ := q
    obtain ⟨rfl, hvw⟩ := hpq
    rw [readers, readers, readProperties_cons, readProperties_cons]
    exact hvw.bind fun n => ih.map ((name, n) :: ·)

/-- What is stored under the name of a field is missing in both entities, or read alike from
both. -/
def RecordField.ReadsAlike (s : Schema) (ps qs : List (String × Value)) (f : RecordField) : Prop :=
  (ps.lookup f.wireName = none ∧ qs.lookup f.wireName = none) ∨
    ∃ v w, ps.lookup f.wireName = some v ∧ qs.lookup f.wireName = some w ∧
      Outcome.Matches (fromValue s v f.type) (fromValue s w f.type)

/-- A field is read alike, whichever names are used up. Where its property is missing, other names
may be suggested. -/
theorem matches_readField {ps qs : List (String × Value)} {f : RecordField}
    (h : f.ReadsAlike s ps qs) (used : List String) :
    Outcome.Matches (readField s ps used f) (readField s qs used f) := by
  have hps := lookup_unassignAll used ps f.wireName
  have hqs := lookup_unassignAll used qs f.wireName
  have hmissing : (unassignAll used ps).lookup f.wireName = none →
      (unassignAll used qs).lookup f.wireName = none →
      Outcome.Matches (readField s ps used f) (readField s qs used f) := by
    intro hp hq
    rw [readField_of_absent hp, readField_of_absent hq]
    cases f.required <;> exact rfl
  by_cases hname : f.wireName ∈ used
  · rw [if_pos hname] at hps hqs
    exact hmissing hps hqs
  · rw [if_neg hname] at hps hqs
    rcases h with ⟨hp, hq⟩ | ⟨v, w, hp, hq, hvw⟩
    · exact hmissing (hps.trans hp) (hqs.trans hq)
    · rw [readField_of_present (hps.trans hp), readField_of_present (hqs.trans hq)]
      exact hvw.map some

theorem matches_readFields {fields : List RecordField} {ps qs : List (String × Value)}
    (h : ∀ f ∈ fields, f.ReadsAlike s ps qs) :
    ∀ used : List String,
      Outcome.Matches (Schema.readFields fields (readers s (unassignAll used ps)))
        (Schema.readFields fields (readers s (unassignAll used qs))) := by
  induction fields with
  | nil => exact fun _ => .refl _
  | cons f rest ih =>
    obtain ⟨hf, hrest⟩ := List.forall_mem_cons.mp h
    intro used
    rw [readFields_cons_used, readFields_cons_used]
    refine (matches_readField hf used).bind fun given => ?_
    exact (ih hrest (used ++ [f.wireName])).map _

/-- Two entities are read alike as a record if its fields are. -/
theorem matches_readRecord {r : RecordType} {casing : Casing} {ps qs : List (String × Value)}
    (h : ∀ f ∈ r.fields, f.isInit = true → (f.stored casing).ReadsAlike s ps qs) :
    Outcome.Matches (s.readRecord r casing (readers s ps))
      (s.readRecord r casing (readers s qs)) := by
  unfold Schema.readRecord
  cases hfields : s.recordFields r casing with
  | error e => exact .refl _
  | ok fields =>
    have hread : ∀ f ∈ fields, f.ReadsAlike s ps qs := by
      intro f hf
      obtain ⟨g, hg, hinit, rfl⟩ := exists_field hfields hf
      exact h g hg hinit
    have hmatches := matches_readFields hread []
    rw [unassignAll_nil, unassignAll_nil] at hmatches
    exact hmatches.bind fun arguments => .refl _

/-! ### All values -/

/-- **Values that differ where no record looks are read alike.** The induction is on how the one
comes of the other, so that the change may be at any depth. -/
theorem Evolves.matches {t : Target} {v w : Value} (h : Evolves s t v w) :
    Outcome.Matches (fromValue s v t) (fromValue s w t) := by
  induction h with
  | same t v => exact .refl _
  | @wrapped f v w h ih =>
    cases f with
    | union _ => exact .refl _
    | _ => exact ih
  -- the forms of both are read as they are, since neither value is an option
  | @unwrapped f v w hv h ih =>
    have hw : w.variant? ≠ some .option := h.variant?_eq ▸ hv
    rw [fromValue, fromValue, reader_optional hv, reader_optional hw]
    exact ih
  | list hlen h ih =>
    have hitems := List.forall₂_iff_zip.mpr ⟨hlen, fun {v w} hvw => ih (v, w) hvw⟩
    exact (matches_readAll hitems).map Native.list
  | tuple hlen h ih =>
    have hitems := List.forall₂_iff_zip.mpr ⟨hlen, fun {v w} hvw => ih (v, w) hvw⟩
    exact (matches_readAll hitems).map Native.tuple
  | @fixed ts vs ws hlen h ih =>
    show Outcome.Matches (readArray s (.array vs) (itemReaders s vs) (.fixed ts))
      (readArray s (.array ws) (itemReaders s ws) (.fixed ts))
    unfold readArray
    simp only [itemReaders_map, List.length_map, hlen]
    rw [← itemReaders_map, ← itemReaders_map]
    split
    · exact (matches_readEach hlen ih).map Native.tuple
    · exact .refl _
  | @mapping t ps qs hnames h ih =>
    exact (matches_readProperties (.of_zip hnames ih)).map Native.ofProperties
  | @record name r casing ps qs hr hcasing habsent h ih =>
    show Outcome.Matches (readDefined s (.entity ps) name (readers s ps))
      (readDefined s (.entity qs) name (readers s qs))
    unfold readDefined
    rw [Schema.lookup_of_record? hr]
    simp only [hcasing]
    refine matches_readRecord fun f hf hinit => ?_
    cases hp : ps.lookup (f.wireName casing) with
    | none => exact .inl ⟨hp, (habsent f hf hinit).mp hp⟩
    | some v =>
      cases hq : qs.lookup (f.wireName casing) with
      | none =>
        rw [(habsent f hf hinit).mpr hq] at hp
        cases hp
      | some w => exact .inr ⟨v, w, hp, hq, ih f hf hinit v w hp hq⟩

/-- **What a record does not declare never matters.** Values that differ where no record looks are
read as the same object, or refused with the same error but for suggestions. Wherever an entity is
read as a record, the error is that of the first of its fields that fails, in the order in which
they are declared. -/
theorem fromValue_evolves (hs : s.Built) :
    (∀ t v w, Evolves s t v w → Outcome.Matches (fromValue s v t) (fromValue s w t)) ∧
    ∀ name r casing fields, s.record? name = some r → r.casing? = some casing →
      s.recordFields r casing = .ok fields → ∀ t : Target, t.form = .type name →
      ∀ properties e, fromValue s (.entity properties) t = .error e ↔
        FailsFirst s properties [] fields e :=
  ⟨fun _ _ _ h => h.matches, fun _ _ _ _ hr hcasing hfields _ ht _ _ =>
    fromValue_record_eq_error_iff hs.wellFormed hr hcasing hfields ht⟩

/-- A keeper as it was stored later, with properties that no field of the keeper or of the pet
reads. -/
def laterKeeper (mood : String) : Value :=
  .entity [("since", .integer 3), ("x", .bare),
    ("p", .array [.entity [("age", .integer 7), ("m", .string mood)]])]

theorem evolves_keeper (mood : String) :
    Evolves pets (.plain (.type "Keeper")) (keeper mood) (laterKeeper mood) := by
  have hpet : Evolves pets (.plain (.type "Pet")) (.entity [("m", .string mood)])
      (.entity [("age", .integer 7), ("m", .string mood)]) := by
    refine .of_perm (r := petRecord) [("m", .string mood)] [("age", .integer 7)] rfl rfl rfl
      (fun f _ _ v w hv hw => ?_) (by decide) (.swap _ _ _) (by simp)
    obtain rfl := Option.some.inj (hv.symm.trans hw)
    exact .same f.type v
  refine .of_perm (r := keeperRecord)
    [("p", .array [.entity [("age", .integer 7), ("m", .string mood)]]), ("x", .bare)]
    [("since", .integer 3)] rfl rfl rfl ?_ (by decide) ?_ (by simp)
  · intro f hf _ v w hv hw
    obtain rfl := List.mem_singleton.mp hf
    obtain rfl := Option.some.inj hv
    obtain rfl := Option.some.inj hw
    exact .list rfl (List.forall_mem_singleton.mpr hpet)
  · exact (List.reverse_perm _).symm

/-- The keeper that was stored later is read like the earlier one, and a pet without a mood fails
for this field, whichever others there are. -/
theorem fromValue_evolves_keeper :
    Outcome.Matches (fromValue pets (keeper "calm") (.plain (.type "Keeper")))
      (fromValue pets (laterKeeper "calm") (.plain (.type "Keeper"))) ∧
    ∃ e, fromValue pets (.entity [("k", .string "b"), ("age", .null)]) (.plain (.type "Pet")) =
        .error e ∧
      FailsFirst pets [("k", .string "b"), ("age", .null)] []
        (petRecord.fields.map (Field.stored .camel)) e := by
  obtain ⟨hmatches, hfails⟩ := fromValue_evolves built_pets
  have hread : fromValue pets (.entity [("k", .string "b"), ("age", .null)])
      (.plain (.type "Pet")) = .error (missingProperty [("k", .string "b"), ("age", .null)] []
        ⟨"mood", "m", .plain (.type "Mood"), true⟩) := rfl
  have hfirst := (hfails "Pet" petRecord .camel _ rfl rfl rfl (.plain (.type "Pet")) rfl _ _).mp hread
  exact ⟨hmatches _ _ _ (evolves_keeper "calm"), _, hread, hfirst⟩

end EntityStore
