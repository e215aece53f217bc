import EntityStore.Proofs.Key.Construction

/-!
# Keys correspond to their messages

Within a project, keys and the messages that stand for keys correspond to each other. No two keys
share a message, and every message with a path of kinds is that of a key.

* `Key.elements` — the steps of a key's path as they are sent;
* `Wire.Key.decodeBelow_of_kinds`, `Wire.Key.decodeBelow_of_kindless` — which paths are read, and
  that the key that is read has the same steps;
* `Wire.Key.encode_decode` — reading a message loses nothing;
* `Key.encode_eq_iff` — equal messages are those of equal keys;
* `Wire.Key.decode_eq_error_iff` — the messages that are refused;
* `Wire.Key.correspond` — all of this together.
-/

namespace EntityStore

namespace Key

/-- The steps of the path as they are sent. -/
def elements (k : Key) : List Wire.PathElement :=
  k.path.map element

/-- What is sent of a path are the kinds and the identifiers of its segments. -/
theorem elements_eq (k : Key) : k.elements = k.segments.map fun s => ⟨s.kind, s.id⟩ := by
  rw [elements, segments, List.map_map]
  rfl

theorem elements_attach (parent : Option Key) (ns : Option String) (s : Segment) :
    (attach parent ns s).elements = parent.elim [] elements ++ [⟨s.kind, s.id⟩] := by
  rw [elements_eq, segments_attach, List.map_append]
  cases parent with
  | none => rfl
  | some p => rw [Option.elim_some, Option.elim_some, elements_eq]; rfl

/-! ### No two keys share a message -/

/-- **Equal messages are those of equal keys.** -/
theorem encode_eq_iff (project : String) {k l : Key} (hk : k.WellFormed) (hl : l.WellFormed) :
    k.encode project = l.encode project ↔ k.same l = true := by
  rw [same_iff]
  constructor
  · intro h
    have hdecode := congrArg Wire.Key.decode h
    rw [decode_encode project hk, decode_encode project hl] at hdecode
    exact Except.ok.inj hdecode
  · intro h
    rw [← encode_unmarked project k, h, encode_unmarked]

end Key

namespace Wire.Key

open EntityStore.Key (Constructed)

/-! ### Messages that are read -/

/-- A path of kinds is read below any parent in the namespace, and the key that is read has the
steps of the path behind those of the parent. The induction is on the path: each step becomes the
parent of the next one. -/
theorem decodeBelow_of_kinds (ns : Option String) (path : List PathElement)
    (hkinds : ∀ e ∈ path, e.kind ≠ "") : ∀ parent : Option EntityStore.Key,
      (∀ p ∈ parent, p.namespace? = ns) → ∃ k, decodeBelow ns parent path = .ok k ∧
        k.elim [] EntityStore.Key.elements = parent.elim [] EntityStore.Key.elements ++ path ∧
        ∀ l ∈ k, l.namespace? = ns := by
  induction path with
  | nil =>
    intro parent hparent
    exact ⟨parent, rfl, (List.append_nil _).symm, hparent⟩
  | cons e rest ih =>
    intro parent hparent
    have hkind : ¬ (e.kind == "") = true := by simpa using hkinds e List.mem_cons_self
    have hns : (EntityStore.Key.attach parent ns ⟨e.kind, e.id, false, false⟩).namespace? = ns := by
      rw [EntityStore.Key.namespace_attach]
      cases parent with
      | none => cases ns <;> rfl
      | some p =>
        rw [Option.bind_some, hparent p rfl]
        cases ns <;> rfl
    obtain ⟨k, hread, helements, hk⟩ := ih (fun f hf => hkinds f (List.mem_cons_of_mem e hf))
      (some (EntityStore.Key.attach parent ns ⟨e.kind, e.id, false, false⟩))
      fun p hp => Option.some.inj hp ▸ hns
    refine ⟨k, ?_, ?_, hk⟩
    · rw [decodeBelow, if_neg hkind, hread]
    · rw [helements, Option.elim_some, EntityStore.Key.elements_attach, List.append_assoc]
      rfl

/-- A step without a kind is refused wherever it stands. -/
theorem decodeBelow_of_kindless (ns : Option String) (path : List PathElement)
    (hkindless : ∃ e ∈ path, e.kind = "") : ∀ parent : Option EntityStore.Key,
      decodeBelow ns parent path = .error (.decode .kindlessKey) := by
  induction path with
  | nil =>
    obtain ⟨e, he, -⟩ := hkindless
    cases he
  | cons first rest ih =>
    intro parent
    rw [decodeBelow]
    split
    · rfl
    · rename_i hfirst
      obtain ⟨e, he, hkind⟩ := hkindless
      rcases List.mem_cons.mp he with rfl | hrest
      · exact absurd (beq_iff_eq.mpr hkind) hfirst
      · exact ih ⟨e, hrest, hkind⟩ _

/-- A message whose path is not empty and has no step without a kind is read. -/
theorem exists_decode {m : Wire.Key} (hpath : m.path ≠ []) (hkinds : ∀ e ∈ m.path, e.kind ≠ "") :
    ∃ k, m.decode = .ok k ∧ k.elements = m.path ∧ k.namespace? = m.namespace? := by
  obtain ⟨found, hread, helements, hns⟩ :=
    decodeBelow_of_kinds m.namespace? m.path hkinds none nofun
  cases found with
  | none => exact absurd helements.symm hpath
  | some k =>
    refine ⟨k, ?_, helements, hns k rfl⟩
    rw [decode, hread]
    rfl

/-- **Reading a message loses nothing.** The message of the key that is read is the message again,
if it names the project and no database. -/
theorem encode_decode {project ns : String} {m : Wire.Key}
    (hpartition : m.partition = some ⟨project, "", ns⟩) (hpath : m.path ≠ [])
    (hkinds : ∀ e ∈ m.path, e.kind ≠ "") : ∃ k, m.decode = .ok k ∧ k.encode project = m := by
  obtain ⟨k, hread, helements, hk⟩ := exists_decode hpath hkinds
  refine ⟨k, hread, ?_⟩
  have hns : k.namespace?.getD "" = ns := by
    rw [hk, Wire.Key.namespace?, hpartition, Option.bind_some, normalizeNamespace_eq]
    by_cases hempty : ns = "" <;> simp [hempty]
  rw [EntityStore.Key.encode, hns, ← hpartition]
  show Wire.Key.mk m.partition k.elements = m
  rw [helements]

/-! ### Messages that are refused -/

/-- The messages that stand for no key. -/
def IsBroken (m : Wire.Key) : Prop :=
  m.path = [] ∨ ∃ e ∈ m.path, e.kind = ""

/-- **A message is refused exactly if it stands for no key**, and only as one that cannot be
read. -/
theorem decode_eq_error_iff (m : Wire.Key) :
    ((∃ fault, m.decode = .error (.decode fault)) ↔ m.IsBroken) ∧
      ((∃ k, m.decode = .ok k) ↔ ¬ m.IsBroken) := by
  by_cases hbroken : m.IsBroken
  · have hrefused : ∃ fault, m.decode = .error (.decode fault) := by
      by_cases hkindless : ∃ e ∈ m.path, e.kind = ""
      · refine ⟨.kindlessKey, ?_⟩
        rw [decode, decodeBelow_of_kindless _ _ hkindless]
        rfl
      · have hempty : m.path = [] := hbroken.resolve_right hkindless
        refine ⟨.emptyKeyPath, ?_⟩
        rw [decode, hempty]
        rfl
    refine ⟨iff_of_true hrefused hbroken, iff_of_false ?_ (not_not_intro hbroken)⟩
    rintro ⟨k, hk⟩
    obtain ⟨fault, hfault⟩ := hrefused
    rw [hk] at hfault
    cases hfault
  · obtain ⟨hpath, hkindless⟩ := not_or.mp hbroken
    have hkinds : ∀ e ∈ m.path, e.kind ≠ "" := fun e he hkind => hkindless ⟨e, he, hkind⟩
    obtain ⟨k, hread, -⟩ := exists_decode hpath hkinds
    refine ⟨iff_of_false ?_ hbroken, iff_of_true ⟨k, hread⟩ hbroken⟩
    rintro ⟨fault, hfault⟩
    rw [hread] at hfault
    cases hfault

/-! ### The correspondence -/

/-- **Keys and the messages of a project correspond to each other.** The message of every key that
can be constructed is read as the key without its marks, and two keys have one message exactly if
they are equal. Every message that names the project and no database, with a path that is not empty
and has no step without a kind, is read as a key whose message it is. All messages whose path is
empty or has a step without a kind are refused as unreadable, and no others. -/
theorem correspond (project : String) :
    (∀ k : EntityStore.Key, k.Constructed →
      (k.encode project).decode = .ok k.unmarked ∧ k.unmarked.same k = true) ∧
    (∀ k l : EntityStore.Key, k.Constructed → l.Constructed →
      (k.encode project = l.encode project ↔ k.same l = true)) ∧
    (∀ (m : Wire.Key) (ns : String), m.partition = some ⟨project, "", ns⟩ → m.path ≠ [] →
      (∀ e ∈ m.path, e.kind ≠ "") →
        ∃ k : EntityStore.Key, k.Constructed ∧ m.decode = .ok k ∧ k.encode project = m) ∧
    ∀ m : Wire.Key,
      ((∃ fault, m.decode = .error (.decode fault)) ↔ m.path = [] ∨ ∃ e ∈ m.path, e.kind = "") ∧
      ((∃ k, m.decode = .ok k) ↔ ¬ (m.path = [] ∨ ∃ e ∈ m.path, e.kind = "")) := by
  refine ⟨?_, ?_, ?_, decode_eq_error_iff⟩
  · intro k hk
    exact ⟨EntityStore.Key.decode_encode project hk.wellFormed, k.unmarked_same⟩
  · intro k l hk hl
    exact EntityStore.Key.encode_eq_iff project hk.wellFormed hl.wellFormed
  · intro m ns hpartition hpath hkinds
    obtain ⟨k, hread, hencoded⟩ := encode_decode hpartition hpath hkinds
    exact ⟨k, .decode hread, hread, hencoded⟩

/-- The message of a path with the number zero, the empty name and no identifier. -/
def threefold : Wire.Key :=
  ⟨some ⟨"p", "", "n"⟩, [⟨"A", some (.number 0)⟩, ⟨"B", some (.name "")⟩, ⟨"C", none⟩]⟩

/-- Zero, the empty name and no identifier stay apart. -/
theorem correspond_threefold :
    (∃ k : EntityStore.Key, k.Constructed ∧ threefold.decode = .ok k ∧ k.encode "p" = threefold) ∧
      ∃ fault, (Wire.Key.mk none [⟨"A", none⟩, ⟨"", none⟩]).decode = .error (.decode fault) := by
  obtain ⟨-, -, hread, hrefused⟩ := correspond "p"
  refine ⟨hread threefold "n" rfl (by decide) (by decide), (hrefused _).1.mpr ?_⟩
  exact Or.inr ⟨⟨"", none⟩, by decide, rfl⟩

end Wire.Key

end EntityStore
