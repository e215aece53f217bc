import EntityStore.Text.Case

/-!
# Letter case of ASCII texts

The full mappings of Unicode are the plain ones on ASCII: every character has one character as its
image, whatever stands around it.

* `lower_of_ascii`, `upper_of_ascii`, `capitalize_of_ascii` — the forms of an ASCII text;
* `isUpper_of_ascii` — when an ASCII text is in capitals;
* `of_ascii` — what holds of the first 128 characters holds of those of an ASCII text.
-/

namespace EntityStore.Text

/-- Texts of ASCII characters. -/
def IsAscii (s : List Char) : Prop := ∀ c ∈ s, c.val < 0x80

theorem IsAscii.head {c : Char} {s : List Char} (h : IsAscii (c :: s)) : c.val < 0x80 :=
  h c List.mem_cons_self

theorem IsAscii.tail {c : Char} {s : List Char} (h : IsAscii (c :: s)) : IsAscii s :=
  fun d hd => h d (List.mem_cons_of_mem c hd)

/-- Properties of ASCII characters, one by one. -/
theorem of_ascii (P : Char → Prop) (h : ∀ n < 128, P (Char.ofNat n)) {c : Char}
    (hc : c.val < 0x80) : P c := by
  have hn : c.toNat < 128 := UInt32.lt_iff_toNat_lt.mp hc
  rw [← Char.ofNat_toNat c]
  exact h c.toNat hn

/-! ### Characters -/

theorem isTitleChar_of_ascii {c : Char} (hc : c.val < 0x80) : isTitleChar c = false :=
  of_ascii (fun c => isTitleChar c = false) (by decide +kernel) hc

theorem isUpperChar_of_ascii {c : Char} (hc : c.val < 0x80) : isUpperChar c = c.isUpper :=
  if_pos hc

theorem isLowerChar_of_ascii {c : Char} (hc : c.val < 0x80) : isLowerChar c = c.isLower :=
  if_pos hc

theorem upperChar_of_ascii {c : Char} (hc : c.val < 0x80) : upperChar c = [c.toUpper] :=
  if_pos hc

theorem lowerChar_of_ascii {c : Char} (hc : c.val < 0x80) : lowerChar c = [c.toLower] :=
  if_pos hc

theorem titleChar_of_ascii {c : Char} (hc : c.val < 0x80) : titleChar c = [c.toUpper] :=
  if_pos hc

/-! ### Texts -/

theorem upper_of_ascii {s : List Char} (h : IsAscii s) : upper s = s.map Char.toUpper := by
  induction s with
  | nil => rfl
  | cons c rest ih =>
    rw [upper, List.flatMap_cons, upperChar_of_ascii h.head, List.map_cons, ← ih h.tail]
    rfl

/-- No ASCII character is a sigma, so that it does not matter what stands before it. -/
theorem lowerAfter_of_ascii {s : List Char} (h : IsAscii s) (before : List Char) :
    lowerAfter before s = s.map Char.toLower := by
  induction s generalizing before with
  | nil => rfl
  | cons c rest ih =>
    have hsigma : (c == 'Σ') = false :=
      of_ascii (fun c => (c == 'Σ') = false) (by decide +kernel) h.head
    rw [lowerAfter, hsigma, ih h.tail, List.map_cons]
    simp only [Bool.false_eq_true, if_false, lowerChar_of_ascii h.head]
    rfl

theorem lower_of_ascii {s : List Char} (h : IsAscii s) : lower s = s.map Char.toLower :=
  lowerAfter_of_ascii h []

theorem capitalize_of_ascii {c : Char} {rest : List Char} (h : IsAscii (c :: rest)) :
    capitalize (c :: rest) = c.toUpper :: rest.map Char.toLower := by
  rw [capitalize, titleChar_of_ascii h.head, lowerAfter_of_ascii h.tail]
  rfl

theorem isUpper_of_ascii {s : List Char} (h : IsAscii s) :
    isUpper s = true ↔ (∃ c ∈ s, c.isUpper = true) ∧ ∀ c ∈ s, c.isLower = false := by
  rw [isUpper, Bool.and_eq_true, List.any_eq_true, List.all_eq_true]
  refine and_congr (exists_congr fun c => and_congr_right fun hc => ?_)
    (forall_congr' fun c => imp_congr_right fun hc => ?_)
  · rw [isUpperChar_of_ascii (h c hc)]
  · rw [isLowerChar_of_ascii (h c hc), isTitleChar_of_ascii (h c hc), Bool.or_false,
      Bool.not_eq_true']

end EntityStore.Text
