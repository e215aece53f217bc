import EntityStore.Casing
import Mathlib.Data.List.Chain

/-!
# Words of an identifier

Words that are joined by underscores or hyphens are found again, and the joined text is the only one
that comes of them.

* `IsWord` — a word: it is not empty, and nothing in it ends a word;
* `Text.wordsFrom_append` — characters that are not blank stay together;
* `spaced_append` — where no blank is put;
* `splitWords_join` — the words of joined words.
-/

namespace EntityStore

/-! ### Cutting at blanks -/

namespace Text

/-- Characters that are not blank all go to the word that is under way. -/
theorem wordsFrom_append {w : List Char} (hw : ∀ c ∈ w, isBlank c = false)
    (before rest : List Char) :
    wordsFrom before (w ++ rest) = wordsFrom (w.reverse ++ before) rest := by
  induction w generalizing before with
  | nil => rfl
  | cons c w ih =>
    obtain ⟨hc, hrest⟩ := List.forall_mem_cons.mp hw
    rw [List.cons_append, wordsFrom, hc, if_neg Bool.false_ne_true, ih hrest, List.reverse_cons,
      List.append_assoc]
    rfl

variable {w : List Char}

theorem words_of_solid (hw : ∀ c ∈ w, isBlank c = false) (hne : w ≠ []) : words w = [w] := by
  have hgo := wordsFrom_append hw [] []
  rw [List.append_nil, List.append_nil] at hgo
  rw [words, hgo, wordsFrom, if_neg (by simpa using hne), List.reverse_reverse]

theorem words_append_blank (hw : ∀ c ∈ w, isBlank c = false) (hne : w ≠ []) {b : Char}
    (hb : isBlank b = true) (rest : List Char) : words (w ++ b :: rest) = w :: words rest := by
  rw [words, wordsFrom_append hw, List.append_nil, wordsFrom, if_pos hb,
    if_neg (by simpa using hne), List.reverse_reverse, words]

end Text

/-! ### Cutting an identifier -/

/-- Underscores and hyphens stand between words. -/
def isSeparator (c : Char) : Bool := c == '_' || c == '-'

/-- A word: no separator and no blank is in it, and no capital stands behind a small letter or a
digit. -/
structure IsWord (w : List Char) : Prop where
  nonempty : w ≠ []
  solid : ∀ c ∈ w, isSeparator c = false ∧ Text.isBlank c = false
  even : w.IsChain fun a b => isBoundary a b = false

theorem spaced_cons_cons (c d : Char) (rest : List Char) :
    spaced (c :: d :: rest) =
      (if isSeparator c then ' ' else c) ::
        (if isBoundary c d then ' ' :: spaced (d :: rest) else spaced (d :: rest)) := by
  rw [spaced, isSeparator]
  split <;> rfl

theorem isBoundary_of_isSeparator {c : Char} (h : isSeparator c = true) (d : Char) :
    isBoundary c d = false ∧ isBoundary d c = false := by
  have hcases : c = '_' ∨ c = '-' := by
    simpa [isSeparator] using h
  rcases hcases with rfl | rfl
  · exact ⟨rfl, Bool.and_false _⟩
  · exact ⟨rfl, Bool.and_false _⟩

/-- A separator becomes a blank, and neither side of it is a boundary. -/
theorem spaced_separator {c : Char} (h : isSeparator c = true) (rest : List Char) :
    spaced (c :: rest) = ' ' :: spaced rest := by
  cases rest with
  | nil =>
    rw [spaced]
    exact congrArg (fun here => [here]) (if_pos h)
  | cons d rest =>
    rw [spaced_cons_cons, h, (isBoundary_of_isSeparator h d).1]
    rfl

/-- Where there is no separator and no boundary, nothing changes. -/
theorem spaced_append {w : List Char} (rest : List Char) (hsolid : ∀ c ∈ w, isSeparator c = false)
    (heven : (w ++ rest.head?.toList).IsChain fun a b => isBoundary a b = false) :
    spaced (w ++ rest) = w ++ spaced rest := by
  induction w with
  | nil => rfl
  | cons c w ih =>
    obtain ⟨hc, htail⟩ := List.forall_mem_cons.mp hsolid
    have hrest := ih htail heven.tail
    rw [List.cons_append, List.cons_append, ← hrest]
    cases hnext : w ++ rest with
    | nil =>
      rw [spaced]
      exact congrArg (fun here => [here]) (if_neg (Bool.eq_false_iff.mp hc))
    | cons d after =>
      have hpair : isBoundary c d = false := by
        cases w with
        | nil =>
          rw [List.nil_append] at hnext
          rw [hnext] at heven
          exact (List.isChain_cons_cons.mp heven).1
        | cons e w =>
          obtain ⟨rfl, -⟩ := List.cons.inj hnext
          exact (List.isChain_cons_cons.mp heven).1
      rw [spaced_cons_cons, hc, hpair]
      rfl

variable {w : List Char}

theorem spaced_of_isWord (h : IsWord w) : spaced w = w := by
  have hspaced := spaced_append [] (fun c hc => (h.solid c hc).1)
    (by rw [List.head?_nil, Option.toList_none, List.append_nil]; exact h.even)
  rwa [List.append_nil, spaced, List.append_nil] at hspaced

theorem spaced_append_separator (h : IsWord w) {separator : Char}
    (hseparator : isSeparator separator = true) (rest : List Char) :
    spaced (w ++ separator :: rest) = w ++ ' ' :: spaced rest := by
  rw [spaced_append _ (fun c hc => (h.solid c hc).1), spaced_separator hseparator]
  refine List.isChain_append.mpr ⟨h.even, List.isChain_singleton _, ?_⟩
  rintro c - d hd
  obtain rfl : d = separator := by simpa using hd.symm
  exact (isBoundary_of_isSeparator hseparator c).2

/-! ### Joined words -/

theorem splitWords_of_isWord (h : IsWord w) : splitWords w = [w] := by
  rw [splitWords, spaced_of_isWord h]
  exact Text.words_of_solid (fun c hc => (h.solid c hc).2) h.nonempty

theorem splitWords_append_separator (h : IsWord w) {separator : Char}
    (hseparator : isSeparator separator = true) (rest : List Char) :
    splitWords (w ++ separator :: rest) = w :: splitWords rest := by
  rw [splitWords, spaced_append_separator h hseparator]
  exact Text.words_append_blank (fun c hc => (h.solid c hc).2) h.nonempty (by decide) _

theorem Casing.join_singleton (separator : Char) (w : List Char) : join separator [w] = w :=
  List.intercalate_singleton

theorem Casing.join_cons_cons (separator : Char) (w v : List Char) (words : List (List Char)) :
    join separator (w :: v :: words) = w ++ separator :: join separator (v :: words) := by
  rw [join, List.intercalate_cons_cons, List.append_assoc]
  rfl

/-- Every word behind the first one comes with a separator before it. -/
theorem Casing.join_cons (separator : Char) (w : List Char) (words : List (List Char)) :
    join separator (w :: words) = w ++ words.flatMap (separator :: ·) := by
  induction words generalizing w with
  | nil => rw [join_singleton, List.flatMap_nil, List.append_nil]
  | cons v words ih =>
    rw [join_cons_cons, ih v]
    rfl

/-- **The words of joined words** are those words. -/
theorem splitWords_join {separator : Char} (hseparator : isSeparator separator = true)
    {words : List (List Char)} (hwords : ∀ w ∈ words, IsWord w) :
    splitWords (Casing.join separator words) = words := by
  induction words with
  | nil => rfl
  | cons w words ih =>
    obtain ⟨hw, hrest⟩ := List.forall_mem_cons.mp hwords
    cases words with
    | nil => rw [Casing.join_singleton, splitWords_of_isWord hw]
    | cons v words =>
      rw [Casing.join_cons_cons, splitWords_append_separator hw hseparator, ih hrest]

end EntityStore
