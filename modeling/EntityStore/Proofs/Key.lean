import EntityStore.Key
import EntityStore.Proofs.Outcome

/-!
# The invariant of keys

A key and its ancestors share one namespace, which is not the empty text, and none of their kinds
is empty. Construction establishes this, and equality of keys is equality without the marks.

* `Key.WellFormed` — the invariant;
* `Key.wellFormed_make` — every key that is constructed has it, below a parent that has it;
* `Key.same_iff` — equality of keys as equality of their unmarked forms;
* `KeyInput.mapM_check_eq_ok_iff` — items that are all keys;
* `KeyInput.leading`, `KeyInput.exists_split_of_error` — the keys before the first item that is
  none.
-/

namespace EntityStore

namespace Key

/-! ### The invariant -/

/-- No kind of a key and its ancestors is empty, and all of them share one namespace, which is not
the empty text. -/
def WellFormed : Key → Prop
  | root ns s => s.kind ≠ "" ∧ ns ≠ some ""
  | child p ns s => WellFormed p ∧ p.namespace? = ns ∧ s.kind ≠ ""

theorem WellFormed.namespace_ne {k : Key} (h : k.WellFormed) : k.namespace? ≠ some "" := by
  induction k with
  | root ns s => exact h.2
  | child p ns s ih =>
    obtain ⟨hp, hns, _⟩ := h
    show ns ≠ some ""
    rw [← hns]
    exact ih hp

@[simp] theorem namespace_renamespace (ns : Option String) (k : Key) :
    (k.renamespace ns).namespace? = ns := by
  cases k <;> rfl

theorem wellFormed_renamespace {ns : Option String} (hns : ns ≠ some "") {k : Key}
    (h : k.WellFormed) : (k.renamespace ns).WellFormed := by
  induction k with
  | root old s => exact ⟨h.1, hns⟩
  | child p old s ih => exact ⟨ih h.1, namespace_renamespace ns p, h.2.2⟩

/-! ### Construction -/

theorem normalizeNamespace_ne (ns : Option String) : normalizeNamespace ns ≠ some "" := by
  intro h
  have hfilter := (Option.filter_eq_some_iff.mp h).2
  simp at hfilter

/-- A segment that is attached takes its parent into its namespace, or goes into that of its
parent. -/
theorem wellFormed_attach {parent : Option Key} {ns : Option String} {s : Segment}
    (hparent : ∀ p ∈ parent, p.WellFormed) (hns : ns ≠ some "") (hs : s.kind ≠ "") :
    (attach parent ns s).WellFormed := by
  cases parent with
  | none => exact ⟨hs, hns⟩
  | some p =>
    have hp : p.WellFormed := hparent p rfl
    cases ns with
    | none => exact ⟨hp, rfl, hs⟩
    | some n =>
      by_cases hsame : p.namespace? = some n
      · simp only [attach, hsame, beq_self_eq_true, if_true]
        exact ⟨hp, hsame, hs⟩
      · simp only [attach, beq_iff_eq, if_neg hsame]
        exact ⟨wellFormed_renamespace hns hp, namespace_renamespace _ p, hs⟩

/-- **Construction establishes the invariant.** -/
theorem wellFormed_make {kind : String} {id : KeyIdInput} {parent : Option Key}
    {ns : Option String} {isNew isDeleted : Bool} {k : Key}
    (h : make kind id parent ns isNew isDeleted = .ok k)
    (hparent : ∀ p ∈ parent, p.WellFormed) : k.WellFormed := by
  unfold make at h
  split at h
  · cases h
  · rename_i hkind
    cases hid : id.check with
    | error e =>
      rw [hid] at h
      cases h
    | ok i =>
      rw [hid] at h
      obtain rfl : attach parent (normalizeNamespace ns) ⟨kind, i, isNew, isDeleted⟩ = k :=
        Except.ok.inj h
      exact wellFormed_attach hparent (normalizeNamespace_ne ns) (by simpa using hkind)

/-! ### Equality -/

@[simp] theorem namespace_unmarked (k : Key) : k.unmarked.namespace? = k.namespace? := by
  cases k <;> rfl

@[simp] theorem unmarked_unmarked (k : Key) : k.unmarked.unmarked = k.unmarked := by
  induction k with
  | root ns s => rfl
  | child p ns s ih => simp only [unmarked, ih]

/-- **Equality does not look at the marks, and at nothing else it looks away from.** -/
theorem same_iff (k l : Key) : k.same l = true ↔ k.unmarked = l.unmarked := by
  induction k generalizing l with
  | root ns s =>
    cases l with
    | root ns' s' =>
      simp only [same, unmarked, Bool.and_eq_true, beq_iff_eq, root.injEq, Segment.mk.injEq,
        and_true]
      exact and_comm
    | child p' ns' s' => simp [same, unmarked]
  | child p ns s ih =>
    cases l with
    | root ns' s' => simp [same, unmarked]
    | child p' ns' s' =>
      simp only [same, unmarked, Bool.and_eq_true, beq_iff_eq, ih, child.injEq, Segment.mk.injEq,
        and_true]
      constructor
      · rintro ⟨⟨⟨hkind, hid⟩, hp⟩, hns⟩
        exact ⟨hp, hns, hkind, hid⟩
      · rintro ⟨hp, hns, hkind, hid⟩
        exact ⟨⟨⟨hkind, hid⟩, hp⟩, hns⟩

theorem same_eq_decide (k l : Key) : k.same l = decide (k.unmarked = l.unmarked) := by
  rw [Bool.eq_iff_iff, same_iff, decide_eq_true_iff]

theorem same_unmarked (k l : Key) : k.same l.unmarked = k.same l := by
  rw [same_eq_decide, same_eq_decide, unmarked_unmarked]

theorem unmarked_same (k : Key) : k.unmarked.same k = true :=
  (same_iff k.unmarked k).mpr (unmarked_unmarked k)

end Key

/-! ### What is offered as keys -/

namespace KeyInput

/-- The keys before the first item that is none. -/
def leading : List KeyInput → List Key
  | .key k :: rest => k :: leading rest
  | _ => []

theorem leading_map (ks : List Key) : leading (ks.map key) = ks := by
  induction ks with
  | nil => rfl
  | cons k ks ih => rw [List.map_cons, leading, ih]

theorem check_eq_ok_iff (item : KeyInput) (k : Key) : item.check = .ok k ↔ item = key k := by
  cases item with
  | key l => exact ⟨fun h => congrArg key (Except.ok.inj h), fun h => h ▸ rfl⟩
  | other => exact ⟨nofun, nofun⟩

/-- Items are accepted exactly if all of them are keys. -/
theorem mapM_check_eq_ok_iff {items : List KeyInput} {ks : List Key} :
    items.mapM check = .ok ks ↔ items = ks.map key := by
  simp only [mapM_eq_ok_iff, check_eq_ok_iff]
  rw [← List.forall₂_map_right_iff, List.forall₂_eq_eq_eq]

/-- Items that are refused are keys up to the first one that is none. -/
theorem exists_split_of_error {items : List KeyInput} {e : Error}
    (h : items.mapM check = .error e) :
    ∃ back, items = (leading items).map key ++ other :: back := by
  induction items generalizing e with
  | nil => cases h
  | cons item rest ih =>
    cases item with
    | other => exact ⟨rest, rfl⟩
    | key k =>
      cases hrest : rest.mapM check with
      | ok ks =>
        rw [mapM_check_eq_ok_iff.mp hrest, ← List.map_cons, mapM_check_eq_ok_iff.mpr rfl] at h
        cases h
      | error e' =>
        obtain ⟨back, hsplit⟩ := ih hrest
        exact ⟨back, congrArg (key k :: ·) hsplit⟩

end KeyInput

end EntityStore
