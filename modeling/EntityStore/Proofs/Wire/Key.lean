import EntityStore.Proofs.Key
import EntityStore.Wire.Key

/-!
# Keys survive their messages

The path of a key lists its segments from the root on, and reading attaches them one below the
other again.

* `Key.path_child` — the path of a key below a parent ends with its own segment;
* `Wire.Key.decodeBelow_append` — a path may be read in two parts;
* `Key.decode_encode` — what is read is the key that was written, without its marks.
-/

namespace EntityStore

namespace Wire.Key

/-- Reading a path in two parts: the key of the first part is the parent of the second. -/
theorem decodeBelow_append (ns : Option String) (front back : List PathElement) :
    ∀ parent, decodeBelow ns parent (front ++ back)
      = (decodeBelow ns parent front).bind fun k => decodeBelow ns k back := by
  induction front with
  | nil => intro parent; rfl
  | cons e rest ih =>
    intro parent
    rw [List.cons_append, decodeBelow, decodeBelow]
    split
    · rfl
    · exact ih _

end Wire.Key

namespace Key

theorem path_child (p : Key) (ns : Option String) (s : Segment) :
    (child p ns s).path = p.path ++ [child p ns s] := by
  simp only [path, ancestors, List.reverse_cons]

/-- The steps of a path are written without marks. -/
theorem path_unmarked (k : Key) : k.unmarked.path.map element = k.path.map element := by
  induction k with
  | root ns s => rfl
  | child p ns s ih =>
    show (child p.unmarked ns _).path.map element = _
    rw [path_child, path_child, List.map_append, List.map_append, ih]
    rfl

/-- A message does not say how a key is marked. -/
theorem encode_unmarked (project : String) (k : Key) :
    k.unmarked.encode project = k.encode project := by
  simp only [encode, path_unmarked, namespace_unmarked]

theorem namespace_encode (project : String) {k : Key} (h : k.WellFormed) :
    (k.encode project).namespace? = k.namespace? := by
  have hne := h.namespace_ne
  show normalizeNamespace (some (k.namespace?.getD "")) = k.namespace?
  cases hns : k.namespace? with
  | none => rfl
  | some n =>
    rw [hns] at hne
    have hn : n ≠ "" := by
      intro heq
      exact hne (by rw [heq])
    simp [normalizeNamespace, hn]

/-- A step below the key that was read so far, in its namespace. -/
theorem attach_unmarked (p : Key) (s : Segment) :
    attach (some p.unmarked) p.namespace? ⟨s.kind, s.id, false, false⟩
      = (child p p.namespace? s).unmarked := by
  cases hns : p.namespace? with
  | none => simp only [attach, namespace_unmarked, hns, unmarked]
  | some n => simp only [attach, namespace_unmarked, hns, beq_self_eq_true, if_true, unmarked]

/-- **The path is read back.** The induction is on the key: all but the last step of its path is
the path of its parent. -/
theorem decodeBelow_path {k : Key} (h : k.WellFormed) :
    Wire.Key.decodeBelow k.namespace? none (k.path.map element) = .ok (some k.unmarked) := by
  induction k with
  | root ns s =>
    have hkind : s.kind ≠ "" := h.1
    show Wire.Key.decodeBelow ns none [⟨s.kind, s.id⟩] = _
    simp only [Wire.Key.decodeBelow, beq_iff_eq, if_neg hkind]
    rfl
  | child p ns s ih =>
    obtain ⟨hp, hns, hkind⟩ := h
    subst hns
    rw [path_child, List.map_append, Wire.Key.decodeBelow_append]
    show (Wire.Key.decodeBelow p.namespace? none (p.path.map element)).bind _ = _
    rw [ih hp]
    show Wire.Key.decodeBelow p.namespace? (some p.unmarked) [⟨s.kind, s.id⟩] = _
    simp only [Wire.Key.decodeBelow, beq_iff_eq, if_neg hkind]
    rw [attach_unmarked p s]

/-- **The round trip of keys.** -/
theorem decode_encode (project : String) {k : Key} (h : k.WellFormed) :
    (k.encode project).decode = .ok k.unmarked := by
  unfold Wire.Key.decode
  rw [namespace_encode project h]
  have hpath : (k.encode project).path = k.path.map element := rfl
  rw [hpath, decodeBelow_path h]
  rfl

end Key

end EntityStore
