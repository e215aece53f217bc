import EntityStore.Proofs.Wire.Key

/-!
# Keys that can be constructed

A key comes of a construction, of a message, or of another key of which one part is changed. All of
these keep the invariant of keys, and a change leaves everything else on the path as it was.

* `Key.Constructed` — the keys that can be constructed;
* `Key.Constructed.wellFormed` — they have the invariant;
* `Key.segments` — the kinds, identifiers and marks on the path of a key;
* `Key.segments_renamespace`, `Key.segments_attach`, `Key.attach_segment` — what is kept where a
  key moves to another namespace, goes below a parent, or gets another last segment;
* `Key.constructed_chain` — the invariant and the changes together.
-/

namespace EntityStore

/-- The empty text is no namespace. -/
theorem normalizeNamespace_eq (ns : Option String) :
    normalizeNamespace ns = if ns = some "" then none else ns := by
  cases ns with
  | none => rfl
  | some n => by_cases h : n = "" <;> simp [normalizeNamespace, h]

/-- A number of 64 bits fits in 64 bits. -/
theorem fitsInt64_toInt (n : Int64) : fitsInt64 n.toInt = true := by
  have hlower := n.le_toInt
  have hupper := n.toInt_lt
  unfold fitsInt64
  rw [Bool.and_eq_true, decide_eq_true_eq, decide_eq_true_eq]
  omega

namespace Key

/-! ### Constructions -/

/-- The keys that come of constructions, messages and changes, one after the other. -/
inductive Constructed : Key → Prop
  | make {kind : String} {id : KeyIdInput} {parent : Option KeyInput} {ns : Option String}
      {isNew isDeleted : Bool} {k : Key} (h : makeBelow kind id parent ns isNew isDeleted = .ok k)
      (hparent : ∀ p, parent = some (.key p) → Constructed p) : Constructed k
  | withId {k l : Key} {id : KeyIdInput} (hk : Constructed k) (h : k.withId id = .ok l) :
      Constructed l
  | withParent {k : Key} {parent : Option Key} (hk : Constructed k)
      (hparent : ∀ p, parent = some p → Constructed p) : Constructed (k.withParent parent)
  | withNamespace {k : Key} (ns : Option String) (hk : Constructed k) :
      Constructed (k.withNamespace ns)
  | markNew {k : Key} (hk : Constructed k) : Constructed k.markNew
  | markDeleted {k : Key} (hk : Constructed k) : Constructed k.markDeleted
  | decode {w : Wire.Key} {k : Key} (h : w.decode = .ok k) : Constructed k

theorem WellFormed.kind_ne {k : Key} (h : k.WellFormed) : k.kind ≠ "" := by
  cases k with
  | root ns s => exact h.1
  | child p ns s => exact h.2.2

theorem WellFormed.parent {k : Key} (h : k.WellFormed) : ∀ p ∈ k.parent?, p.WellFormed := by
  cases k with
  | root ns s => exact nofun
  | child p ns s =>
    intro q hq
    obtain rfl := Option.some.inj hq
    exact h.1

theorem wellFormed_makeBelow {kind : String} {id : KeyIdInput} {parent : Option KeyInput}
    {ns : Option String} {isNew isDeleted : Bool} {k : Key}
    (hparent : ∀ p, parent = some (.key p) → p.WellFormed)
    (h : makeBelow kind id parent ns isNew isDeleted = .ok k) : k.WellFormed := by
  obtain ⟨alone, halone, h⟩ := bind_eq_ok h
  have hwf := wellFormed_make halone nofun
  cases parent with
  | none =>
    obtain rfl := Except.ok.inj h
    exact hwf
  | some item =>
    obtain ⟨p, hp, h⟩ := bind_eq_ok h
    obtain rfl := Except.ok.inj h
    rw [KeyInput.check_eq_ok_iff] at hp
    refine wellFormed_attach ?_ hwf.namespace_ne hwf.kind_ne
    intro q hq
    obtain rfl := Option.some.inj hq
    exact hparent p (congrArg some hp)

/-- The key of a path below a well-formed key is well formed. -/
theorem wellFormed_decodeBelow {ns : Option String} (hns : ns ≠ some "")
    (path : List Wire.PathElement) : ∀ {parent : Option Key} {k : Option Key},
      (∀ p ∈ parent, p.WellFormed) → Wire.Key.decodeBelow ns parent path = .ok k →
      ∀ l ∈ k, l.WellFormed := by
  induction path with
  | nil =>
    intro parent k hparent h
    obtain rfl := Except.ok.inj h
    exact hparent
  | cons e rest ih =>
    intro parent k hparent h
    rw [Wire.Key.decodeBelow] at h
    split at h
    · cases h
    · rename_i hkind
      refine ih ?_ h
      intro p hp
      obtain rfl := Option.some.inj hp
      exact wellFormed_attach hparent hns (by simpa using hkind)

theorem wellFormed_decode {w : Wire.Key} {k : Key} (h : w.decode = .ok k) : k.WellFormed := by
  obtain ⟨found, hfound, h⟩ := bind_eq_ok h
  cases found with
  | none => cases h
  | some l =>
    obtain rfl := Except.ok.inj h
    have hns : w.namespace? ≠ some "" := by
      intro heq
      obtain ⟨p, -, hp⟩ := Option.bind_eq_some_iff.mp heq
      exact normalizeNamespace_ne _ hp
    have hnone : ∀ p ∈ (none : Option Key), p.WellFormed := nofun
    exact wellFormed_decodeBelow hns w.path hnone hfound l rfl

/-- **Every key that can be constructed has the invariant.** -/
theorem Constructed.wellFormed {k : Key} (h : k.Constructed) : k.WellFormed := by
  induction h with
  | make h _ ih => exact wellFormed_makeBelow ih h
  | withId _ h ih => exact wellFormed_make h ih.parent
  | withParent _ _ ih ihparent => exact wellFormed_attach ihparent ih.namespace_ne ih.kind_ne
  | withNamespace ns _ ih => exact wellFormed_renamespace (normalizeNamespace_ne ns) ih
  | markNew _ ih | markDeleted _ ih => exact wellFormed_attach ih.parent ih.namespace_ne ih.kind_ne
  | decode h => exact wellFormed_decode h

/-! ### The path -/

/-- The kinds, identifiers and marks on the path, from the root down. -/
def segments (k : Key) : List Segment :=
  k.path.map segment

@[simp] theorem segments_root (ns : Option String) (s : Segment) : (root ns s).segments = [s] := rfl

@[simp] theorem segments_child (p : Key) (ns : Option String) (s : Segment) :
    (child p ns s).segments = p.segments ++ [s] := by
  rw [segments, path_child, List.map_append]
  rfl

/-- The keys on a path are well formed, and lie in one namespace. -/
theorem WellFormed.of_mem_path {k : Key} (h : k.WellFormed) :
    ∀ l ∈ k.path, l.WellFormed ∧ l.namespace? = k.namespace? := by
  induction k with
  | root ns s =>
    intro l hl
    obtain rfl := List.mem_singleton.mp hl
    exact ⟨h, rfl⟩
  | child p ns s ih =>
    intro l hl
    rw [path_child] at hl
    rcases List.mem_append.mp hl with hup | hself
    · obtain ⟨hl, hns⟩ := ih h.1 l hup
      exact ⟨hl, hns.trans h.2.1⟩
    · obtain rfl := List.mem_singleton.mp hself
      exact ⟨h, rfl⟩

/-! ### Changes -/

/-- Another namespace changes nothing else on the path. -/
@[simp] theorem segments_renamespace (ns : Option String) (k : Key) :
    (k.renamespace ns).segments = k.segments := by
  induction k with
  | root old s => rfl
  | child p old s ih => rw [renamespace, segments_child, segments_child, ih]

theorem namespace_of_mem_renamespace (ns : Option String) (k : Key) :
    ∀ l ∈ (k.renamespace ns).path, l.namespace? = ns := by
  induction k with
  | root old s =>
    intro l hl
    obtain rfl := List.mem_singleton.mp hl
    rfl
  | child p old s ih =>
    intro l hl
    rw [renamespace, path_child] at hl
    rcases List.mem_append.mp hl with hup | hself
    · exact ih l hup
    · obtain rfl := List.mem_singleton.mp hself
      rfl

/-- What is attached to a parent keeps the whole path of the parent. -/
theorem segments_attach (parent : Option Key) (ns : Option String) (s : Segment) :
    (attach parent ns s).segments = parent.elim [] segments ++ [s] := by
  cases parent with
  | none => rfl
  | some p =>
    cases ns with
    | none => exact segments_child p _ s
    | some n =>
      rw [attach, segments_child]
      split
      · rfl
      · rw [segments_renamespace]
        rfl

theorem namespace_attach (parent : Option Key) (ns : Option String) (s : Segment) :
    (attach parent ns s).namespace? = ns.or (parent.bind namespace?) := by
  cases parent with
  | none => cases ns <;> rfl
  | some p => cases ns <;> rfl

/-- The key with another last segment. -/
def withSegment (s : Segment) : Key → Key
  | root ns _ => root ns s
  | child p ns _ => child p ns s

/-- A segment in place of the last one leaves the ancestors and the namespace as they are. -/
theorem attach_segment {k : Key} (h : k.WellFormed) (s : Segment) :
    attach k.parent? k.namespace? s = k.withSegment s := by
  cases k with
  | root ns old => rfl
  | child p ns old =>
    obtain ⟨-, hns, -⟩ := h
    subst hns
    show attach (some p) p.namespace? s = child p p.namespace? s
    cases hp : p.namespace? with
    | none => rw [attach, hp]
    | some n => simp only [attach, hp, beq_self_eq_true, if_true]

theorem withId_eq_ok_iff {k l : Key} (h : k.WellFormed) (id : KeyIdInput) :
    k.withId id = .ok l ↔
      ∃ i, id.check = .ok i ∧ l = k.withSegment { k.segment with id := i } := by
  have hkind : ¬ (k.kind == "") = true := by simpa using h.kind_ne
  have hns : normalizeNamespace k.namespace? = k.namespace? := by
    rw [normalizeNamespace_eq, if_neg h.namespace_ne]
  rw [withId, make, if_neg hkind, hns]
  constructor
  · intro hmade
    obtain ⟨i, hi, hl⟩ := bind_eq_ok hmade
    refine ⟨i, hi, ?_⟩
    rw [← attach_segment h]
    exact (Except.ok.inj hl).symm
  · rintro ⟨i, hi, rfl⟩
    rw [hi, ← attach_segment h]
    rfl

/-- **Keys and their ancestors.** All keys on the path of a key that can be constructed lie in one
namespace, which is not the empty text; none of their kinds is empty, and every identifier is
absent, a name or a number of 64 bits. Each change keeps whatever it does not name: another
namespace is that of the whole path and changes no segment, a key below another parent keeps both
paths and its own namespace or else takes that of the parent, and another identifier or mark is that
of the last segment only. -/
theorem constructed_chain {k : Key} (h : k.Constructed) :
    (k.namespace? ≠ some "" ∧ ∀ l ∈ k.path, l.namespace? = k.namespace? ∧ l.kind ≠ "" ∧
      (l.id = none ∨ (∃ s, l.id = some (.name s)) ∨
        ∃ n, l.id = some (.number n) ∧ fitsInt64 n.toInt = true)) ∧
    (∀ ns, (k.withNamespace ns).segments = k.segments ∧
      ∀ l ∈ (k.withNamespace ns).path, l.namespace? = if ns = some "" then none else ns) ∧
    (∀ p : Key, p.Constructed → (k.withParent (some p)).segments = p.segments ++ [k.segment] ∧
      ∀ l ∈ (k.withParent (some p)).path, l.namespace? = k.namespace?.or p.namespace?) ∧
    (∀ id l, k.withId id = .ok l ↔
      ∃ i, id.check = .ok i ∧ l = k.withSegment { k.segment with id := i }) ∧
    k.markNew = k.withSegment { k.segment with isNew := true } ∧
    k.markDeleted = k.withSegment { k.segment with isDeleted := true } := by
  have hwf := h.wellFormed
  refine ⟨⟨hwf.namespace_ne, ?_⟩, ?_, ?_, fun id l => withId_eq_ok_iff hwf id,
    attach_segment hwf _, attach_segment hwf _⟩
  · intro l hl
    obtain ⟨hlwf, hns⟩ := hwf.of_mem_path l hl
    refine ⟨hns, hlwf.kind_ne, ?_⟩
    cases hid : l.id with
    | none => exact Or.inl rfl
    | some i =>
      cases i with
      | name s => exact Or.inr (Or.inl ⟨s, rfl⟩)
      | number n => exact Or.inr (Or.inr ⟨n, rfl, fitsInt64_toInt n⟩)
  · intro ns
    rw [← normalizeNamespace_eq]
    exact ⟨segments_renamespace _ k, namespace_of_mem_renamespace _ k⟩
  · intro p hp
    refine ⟨segments_attach (some p) _ _, ?_⟩
    have hmoved : (k.withParent (some p)).WellFormed :=
      wellFormed_attach (fun q hq => Option.some.inj hq ▸ hp.wellFormed) hwf.namespace_ne
        hwf.kind_ne
    have hns : (k.withParent (some p)).namespace? = k.namespace?.or p.namespace? :=
      namespace_attach (some p) _ _
    intro l hl
    rw [(hmoved.of_mem_path l hl).2, hns]

/-- A guest in a namespace. -/
def visitor : Key := .root (some "m") ⟨"Guest", some (.name "g"), false, false⟩

/-- A new task in another namespace. -/
def errand : Key := .root (some "n") ⟨"Task", some (.number 7), true, false⟩

theorem constructed_visitor : visitor.Constructed := by
  have hmade : makeBelow "Guest" (.name "g") none (some "") false false =
      .ok (.root none ⟨"Guest", some (.name "g"), false, false⟩) := rfl
  exact .withNamespace (some "m") (.make hmade nofun)

theorem constructed_errand : errand.Constructed := by
  have hmade : makeBelow "Task" (.number 7) none (some "n") false false =
      .ok (.root (some "n") ⟨"Task", some (.number 7), false, false⟩) := rfl
  exact .markNew (.make hmade nofun)

/-- A task that goes below a guest takes the guest along into its own namespace. Out of the
namespace again, both keep everything else. -/
theorem constructed_chain_errand :
    (errand.withParent (some visitor)).segments = [visitor.segment, errand.segment] ∧
    (∀ l ∈ (errand.withParent (some visitor)).path, l.namespace? = some "n") ∧
    ((errand.withParent (some visitor)).withNamespace (some "")).segments =
      [visitor.segment, errand.segment] ∧
    ∀ l ∈ ((errand.withParent (some visitor)).withNamespace (some "")).path,
      l.namespace? = none := by
  obtain ⟨-, -, hparent, -⟩ := constructed_chain constructed_errand
  obtain ⟨hsegments, hnamespace⟩ := hparent visitor constructed_visitor
  have hmoved : (errand.withParent (some visitor)).Constructed :=
    .withParent constructed_errand fun p hp => Option.some.inj hp ▸ constructed_visitor
  obtain ⟨-, hnamed, -⟩ := constructed_chain hmoved
  obtain ⟨hkept, hnone⟩ := hnamed (some "")
  exact ⟨hsegments, hnamespace, hkept.trans hsegments, hnone⟩

end Key

end EntityStore
