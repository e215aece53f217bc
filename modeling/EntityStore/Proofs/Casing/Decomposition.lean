import EntityStore.Proofs.Casing.Distinct

/-!
# The words of any identifier

Whatever characters an identifier consists of, it has one right decomposition into words. The
characters that are left when separators and blanks are dropped stay in their order, and of two that
are next to each other, the second one starts a new word exactly if they are a boundary or something
was dropped between them.

* `isSolid`, `wordIndex` — the characters that belong to words, and the number of the word of each;
* `Decomposes` — what the right decomposition is;
* `IsParted` — where words end in it;
* `Splits` — the rules by which an identifier is taken apart from its end on;
* `splits_splitWords`, `Splits.eq_splitWords` — the words of an identifier are what the rules give;
* `Splits.decomposes`, `Decomposes.splits` — the rules give the right decomposition and no other;
* `splitWords_eq_iff` — it is the one that the identifier is split into.
-/

namespace EntityStore

/-! ### Decompositions -/

/-- The characters that belong to words: all but separators and blanks. -/
def isSolid (c : Char) : Bool := !isSeparator c && !Text.isBlank c

/-- The number of the word that the character number `k` of all words together falls into. -/
def wordIndex : List (List Char) → Nat → Nat
  | [], _ => 0
  | w :: words, k => if k < w.length then 0 else wordIndex words (k - w.length) + 1

/-- The right decomposition of an identifier. The solid characters in front of a character say which
one it is in all words together. -/
structure Decomposes (identifier : List Char) (words : List (List Char)) : Prop where
  isWord : ∀ w ∈ words, IsWord w
  flatten : words.flatten = identifier.filter isSolid
  adjacent : ∀ front a b back, identifier = front ++ a :: b :: back →
    isSolid a = true → isSolid b = true →
      (wordIndex words (front.countP isSolid) ≠ wordIndex words (front.countP isSolid + 1) ↔
        isBoundary a b = true)
  parted : ∀ front a gap b back, identifier = front ++ a :: (gap ++ b :: back) →
    isSolid a = true → isSolid b = true → gap ≠ [] → (∀ c ∈ gap, isSolid c = false) →
      wordIndex words (front.countP isSolid) ≠ wordIndex words (front.countP isSolid + 1)

/-- A word ends between two solid characters with no other in between exactly if something was
dropped there or they are a boundary. -/
def IsParted (identifier : List Char) (words : List (List Char)) : Prop :=
  ∀ front a gap b back, identifier = front ++ a :: (gap ++ b :: back) →
    isSolid a = true → isSolid b = true → (∀ c ∈ gap, isSolid c = false) →
      (wordIndex words (front.countP isSolid) ≠ wordIndex words (front.countP isSolid + 1) ↔
        gap ≠ [] ∨ isBoundary a b = true)

/-! ### Characters and their words -/

theorem isSolid_iff {c : Char} :
    isSolid c = true ↔ isSeparator c = false ∧ Text.isBlank c = false := by
  simp [isSolid]

/-- The first of two characters at a boundary belongs to a word. -/
theorem isSolid_of_isBoundary {a b : Char} (h : isBoundary a b = true) : isSolid a = true := by
  have hfits : NameStyle.snake.fits a = true := (Bool.and_eq_true_iff.mp h).1
  exact isSolid_iff.mpr (NameStyle.solid_of_fits hfits)

theorem isBoundary_of_not_isSolid {a : Char} (h : isSolid a = false) (b : Char) :
    isBoundary a b = false := by
  cases hpair : isBoundary a b with
  | false => rfl
  | true => exact absurd (isSolid_of_isBoundary hpair) (by simp [h])

/-- A word grows at its front: the characters behind move on by one. -/
theorem wordIndex_grow (c : Char) (w : List Char) (words : List (List Char)) (k : Nat) :
    wordIndex ((c :: w) :: words) (k + 1) = wordIndex (w :: words) k := by
  simp [wordIndex]

/-- A word of one character is put in front. -/
theorem wordIndex_single (c : Char) (words : List (List Char)) (k : Nat) :
    wordIndex ([c] :: words) (k + 1) = wordIndex words k + 1 := by
  simp [wordIndex]

namespace IsParted

variable {c : Char} {rest w : List Char} {words : List (List Char)}

theorem of_drop (h : IsParted (c :: rest) words) (hc : isSolid c = false) :
    IsParted rest words := by
  rintro front a gap b back rfl ha hb hgap
  have hparted := h (c :: front) a gap b back rfl ha hb hgap
  rwa [List.countP_cons_of_neg (by simp [hc])] at hparted

theorem of_cut (h : IsParted (c :: rest) ([c] :: words)) (hc : isSolid c = true) :
    IsParted rest words := by
  rintro front a gap b back rfl ha hb hgap
  have hparted := h (c :: front) a gap b back rfl ha hb hgap
  rwa [List.countP_cons_of_pos hc, wordIndex_single, wordIndex_single,
    Nat.add_left_inj.ne] at hparted

theorem of_grow (h : IsParted (c :: rest) ((c :: w) :: words)) (hc : isSolid c = true) :
    IsParted rest (w :: words) := by
  rintro front a gap b back rfl ha hb hgap
  have hparted := h (c :: front) a gap b back rfl ha hb hgap
  rwa [List.countP_cons_of_pos hc, wordIndex_grow, wordIndex_grow] at hparted

end IsParted

namespace Decomposes

variable {identifier : List Char} {words : List (List Char)}

theorem isParted (h : Decomposes identifier words) : IsParted identifier words := by
  intro front a gap b back hsplit ha hb hdropped
  cases gap with
  | nil => simpa using h.adjacent front a b back hsplit ha hb
  | cons g gap =>
    have hne : g :: gap ≠ [] := List.cons_ne_nil g gap
    exact iff_of_true (h.parted front a (g :: gap) b back hsplit ha hb hne hdropped) (.inl hne)

theorem of_isParted (hwords : ∀ w ∈ words, IsWord w)
    (hflatten : words.flatten = identifier.filter isSolid) (h : IsParted identifier words) :
    Decomposes identifier words where
  isWord := hwords
  flatten := hflatten
  adjacent front a b back hsplit ha hb := by simpa using h front a [] b back hsplit ha hb nofun
  parted front a gap b back hsplit ha hb hgap hdropped :=
    (h front a gap b back hsplit ha hb hdropped).mpr (.inl hgap)

end Decomposes

/-! ### Cutting at blanks -/

namespace Text

theorem words_cons_blank {b : Char} (hb : isBlank b = true) (s : List Char) :
    words (b :: s) = words s := by
  rw [words, wordsFrom, if_pos hb]
  rfl

/-- What stands at the end of the word under way, read backwards, is in front of the first word. -/
theorem wordsFrom_snoc (c : Char) (s : List Char) {before : List Char} (hne : before ≠ []) :
    ∃ w ws, wordsFrom before s = w :: ws ∧ wordsFrom (before ++ [c]) s = (c :: w) :: ws := by
  have hfull {before : List Char} (hne : before ≠ []) : ¬ before.isEmpty = true := by
    simpa using hne
  have hmore : before ++ [c] ≠ [] := by simp
  induction s generalizing before with
  | nil =>
    refine ⟨before.reverse, [], ?_, ?_⟩
    · rw [wordsFrom, if_neg (hfull hne)]
    · rw [wordsFrom, if_neg (hfull hmore), List.reverse_append]
      rfl
  | cons b s ih =>
    cases hb : isBlank b with
    | true =>
      refine ⟨before.reverse, wordsFrom [] s, ?_, ?_⟩
      · rw [wordsFrom, if_pos hb, if_neg (hfull hne)]
      · rw [wordsFrom, if_pos hb, if_neg (hfull hmore), List.reverse_append]
        rfl
    | false =>
      have hgo := @ih (b :: before) (by simp) (by simp)
      have hnot : ¬ isBlank b = true := by simp [hb]
      rw [wordsFrom, wordsFrom, if_neg hnot, if_neg hnot]
      exact hgo

theorem words_cons_cons {c d : Char} (hc : isBlank c = false) (hd : isBlank d = false)
    (s : List Char) :
    ∃ w ws, words (d :: s) = w :: ws ∧ words (c :: d :: s) = (c :: w) :: ws := by
  have hfirst : words (d :: s) = wordsFrom [d] s := by
    rw [words, wordsFrom, if_neg (by simp [hd])]
  have hboth : words (c :: d :: s) = wordsFrom [d, c] s := by
    rw [words, wordsFrom, if_neg (by simp [hc]), wordsFrom, if_neg (by simp [hd])]
  rw [hfirst, hboth]
  exact wordsFrom_snoc c s (by simp)

theorem words_cons_of_blank {c b : Char} (hc : isBlank c = false) (hb : isBlank b = true)
    (s : List Char) : words (c :: b :: s) = [c] :: words s :=
  words_append_blank (w := [c]) (by simpa using hc) (by simp) hb s

end Text

/-! ### Taking an identifier apart -/

theorem exists_spaced_cons (c : Char) (rest : List Char) :
    ∃ after, spaced (c :: rest) = (if isSeparator c then ' ' else c) :: after := by
  cases rest with
  | nil => exact ⟨[], rfl⟩
  | cons d rest => exact ⟨_, spaced_cons_cons c d rest⟩

/-- A character that is not solid leaves a blank. -/
theorem exists_spaced_blank {c : Char} (hc : isSolid c = false) (rest : List Char) :
    ∃ b, Text.isBlank b = true ∧ spaced (c :: rest) = b :: spaced rest := by
  refine ⟨if isSeparator c then ' ' else c, ?_, ?_⟩
  · cases hsep : isSeparator c with
    | true =>
      rw [if_pos rfl]
      decide
    | false => simpa [isSolid, hsep] using hc
  · cases rest with
    | nil => rfl
    | cons d rest =>
      rw [spaced_cons_cons, isBoundary_of_not_isSolid hc]
      rfl

theorem isWord_singleton {c : Char} (hc : isSolid c = true) : IsWord [c] :=
  ⟨by simp, List.forall_mem_singleton.mpr (isSolid_iff.mp hc), List.isChain_singleton _⟩

theorem splitWords_drop {c : Char} (hc : isSolid c = false) (rest : List Char) :
    splitWords (c :: rest) = splitWords rest := by
  obtain ⟨b, hb, hspaced⟩ := exists_spaced_blank hc rest
  rw [splitWords, hspaced, Text.words_cons_blank hb, splitWords]

/-- A word ends behind a character at the end, before one that is dropped and at a boundary. -/
theorem splitWords_cut {c : Char} {rest : List Char} (hc : isSolid c = true)
    (hend : ∀ d ∈ rest.head?, isSolid d = true → isBoundary c d = true) :
    splitWords (c :: rest) = [c] :: splitWords rest := by
  obtain ⟨hsep, hblank⟩ := isSolid_iff.mp hc
  cases rest with
  | nil => exact splitWords_of_isWord (isWord_singleton hc)
  | cons d rest =>
    rw [splitWords, spaced_cons_cons, hsep, splitWords, if_neg Bool.false_ne_true]
    cases hpair : isBoundary c d with
    | true => exact Text.words_cons_of_blank hblank (by decide) _
    | false =>
      have hd : isSolid d = false := by
        cases hd : isSolid d with
        | false => rfl
        | true => exact absurd (hend d rfl hd) (by simp [hpair])
      obtain ⟨b, hb, hspaced⟩ := exists_spaced_blank hd rest
      rw [if_neg Bool.false_ne_true, hspaced, Text.words_cons_of_blank hblank hb,
        Text.words_cons_blank hb]

theorem splitWords_grow {c d : Char} (hc : isSolid c = true) (hd : isSolid d = true)
    (heven : isBoundary c d = false) (rest : List Char) :
    ∃ w ws, splitWords (d :: rest) = w :: ws ∧ splitWords (c :: d :: rest) = (c :: w) :: ws := by
  obtain ⟨hcsep, hcblank⟩ := isSolid_iff.mp hc
  obtain ⟨hdsep, hdblank⟩ := isSolid_iff.mp hd
  obtain ⟨after, hspaced⟩ := exists_spaced_cons d rest
  rw [hdsep, if_neg Bool.false_ne_true] at hspaced
  have hfirst : splitWords (d :: rest) = Text.words (d :: after) := by
    rw [splitWords, hspaced]
  have hboth : splitWords (c :: d :: rest) = Text.words (c :: d :: after) := by
    rw [splitWords, spaced_cons_cons, hcsep, heven, hspaced]
    rfl
  rw [hfirst, hboth]
  exact Text.words_cons_cons hcblank hdblank after

/-- The rules by which an identifier is taken apart. A character that is not solid is dropped; a
solid one is a word of its own if a word ends behind it, and else it goes to the word of the next
one. -/
inductive Splits : List Char → List (List Char) → Prop
  | nil : Splits [] []
  | drop {c : Char} {rest : List Char} {words : List (List Char)} (hc : isSolid c = false)
      (hrest : Splits rest words) : Splits (c :: rest) words
  | cut {c : Char} {rest : List Char} {words : List (List Char)} (hc : isSolid c = true)
      (hend : ∀ d ∈ rest.head?, isSolid d = true → isBoundary c d = true)
      (hrest : Splits rest words) : Splits (c :: rest) ([c] :: words)
  | grow {c d : Char} {rest w : List Char} {words : List (List Char)} (hc : isSolid c = true)
      (hd : isSolid d = true) (heven : isBoundary c d = false)
      (hrest : Splits (d :: rest) (w :: words)) : Splits (c :: d :: rest) ((c :: w) :: words)

/-- The rules apply to every identifier, and give the words that it is split into. -/
theorem splits_splitWords (identifier : List Char) : Splits identifier (splitWords identifier) := by
  induction identifier with
  | nil => exact .nil
  | cons c rest ih =>
    cases hc : isSolid c with
    | false =>
      rw [splitWords_drop hc]
      exact .drop hc ih
    | true =>
      by_cases hend : ∀ d ∈ rest.head?, isSolid d = true → isBoundary c d = true
      · rw [splitWords_cut hc hend]
        exact .cut hc hend ih
      · cases rest with
        | nil => exact absurd nofun hend
        | cons d rest =>
          obtain ⟨hd, heven⟩ : isSolid d = true ∧ isBoundary c d = false := by
            simpa using hend
          obtain ⟨w, ws, hfirst, hboth⟩ := splitWords_grow hc hd heven rest
          rw [hfirst] at ih
          rw [hboth]
          exact .grow hc hd heven ih

theorem Splits.eq_splitWords {identifier : List Char} {words : List (List Char)}
    (h : Splits identifier words) : words = splitWords identifier := by
  induction h with
  | nil => rfl
  | drop hc _ ih => rw [splitWords_drop hc, ih]
  | cut hc hend _ ih => rw [splitWords_cut hc hend, ih]
  | grow hc hd heven _ ih =>
    obtain ⟨w, ws, hfirst, hboth⟩ := splitWords_grow hc hd heven _
    obtain ⟨rfl, rfl⟩ := List.cons.inj (ih.trans hfirst)
    rw [hboth]

/-! ### The rules give the right decomposition -/

namespace Splits

variable {identifier : List Char} {words : List (List Char)}

theorem flatten_eq (h : Splits identifier words) :
    words.flatten = identifier.filter isSolid := by
  induction h with
  | nil => rfl
  | drop hc _ ih => simp [ih, hc]
  | cut hc _ _ ih => simp [ih, hc]
  | grow hc hd _ _ ih =>
    rw [List.filter_cons_of_pos hc, ← ih]
    rfl

/-- The first word starts with the first character, if this is solid. -/
theorem head_eq {d : Char} {rest w : List Char} (h : Splits (d :: rest) (w :: words))
    (hd : isSolid d = true) : ∃ w', w = d :: w' := by
  cases h with
  | drop hc => exact absurd hd (by simp [hc])
  | cut => exact ⟨[], rfl⟩
  | grow => exact ⟨_, rfl⟩

theorem isWord (h : Splits identifier words) : ∀ w ∈ words, IsWord w := by
  induction h with
  | nil => exact nofun
  | drop _ _ ih => exact ih
  | cut hc _ _ ih => exact List.forall_mem_cons.mpr ⟨isWord_singleton hc, ih⟩
  | grow hc hd heven hrest ih =>
    obtain ⟨hw, hwords⟩ := List.forall_mem_cons.mp ih
    obtain ⟨w', rfl⟩ := hrest.head_eq hd
    refine List.forall_mem_cons.mpr ⟨⟨by simp, ?_, ?_⟩, hwords⟩
    · exact List.forall_mem_cons.mpr ⟨isSolid_iff.mp hc, hw.solid⟩
    · exact List.isChain_cons_cons.mpr ⟨heven, hw.even⟩

/-- The induction goes through the rules; in the part in front of the two characters each of them
moves both on in the same way. -/
theorem isParted (h : Splits identifier words) : IsParted identifier words := by
  induction h with
  | nil =>
    intro front a gap b back hsplit
    simp at hsplit
  | drop hc _ ih =>
    intro front a gap b back hsplit ha hb hgap
    cases front with
    | nil =>
      obtain ⟨rfl, -⟩ := List.cons.inj hsplit
      exact absurd ha (by simp [hc])
    | cons c' front =>
      obtain ⟨rfl, hrest⟩ := List.cons.inj hsplit
      rw [List.countP_cons_of_neg (by simp [hc])]
      exact ih front a gap b back hrest ha hb hgap
  | cut hc hend _ ih =>
    intro front a gap b back hsplit ha hb hgap
    cases front with
    | nil =>
      obtain ⟨rfl, rfl⟩ := List.cons.inj hsplit
      rw [List.countP_nil, wordIndex_single]
      refine iff_of_true (by simp [wordIndex]) ?_
      cases gap with
      | nil => exact .inr (hend b rfl hb)
      | cons g gap => exact .inl (by simp)
    | cons c' front =>
      obtain ⟨rfl, hrest⟩ := List.cons.inj hsplit
      rw [List.countP_cons_of_pos hc, wordIndex_single, wordIndex_single, Nat.add_left_inj.ne]
      exact ih front a gap b back hrest ha hb hgap
  | grow hc hd heven hrest ih =>
    intro front a gap b back hsplit ha hb hgap
    cases front with
    | nil =>
      obtain ⟨rfl, htail⟩ := List.cons.inj hsplit
      obtain ⟨w', rfl⟩ := hrest.head_eq hd
      refine iff_of_false (by simp [wordIndex]) ?_
      cases gap with
      | nil =>
        obtain ⟨rfl, -⟩ := List.cons.inj htail
        simp [heven]
      | cons g gap =>
        obtain ⟨hsame, -⟩ := List.cons.inj htail
        exact absurd (hgap g List.mem_cons_self) (by simp [← hsame, hd])
    | cons c' front =>
      obtain ⟨rfl, htail⟩ := List.cons.inj hsplit
      rw [List.countP_cons_of_pos hc, wordIndex_grow, wordIndex_grow]
      exact ih front a gap b back htail ha hb hgap

theorem decomposes (h : Splits identifier words) : Decomposes identifier words :=
  .of_isParted h.isWord h.flatten_eq h.isParted

end Splits

/-! ### There is no other -/

namespace Decomposes

variable {c : Char} {rest w : List Char} {words : List (List Char)}

theorem eq_nil (h : Decomposes [] words) : words = [] := by
  cases words with
  | nil => rfl
  | cons w words =>
    have hempty : w = [] := by simpa using (List.append_eq_nil_iff.mp h.flatten).1
    exact absurd hempty (h.isWord w List.mem_cons_self).nonempty

theorem of_drop (h : Decomposes (c :: rest) words) (hc : isSolid c = false) :
    Decomposes rest words := by
  have hflatten := h.flatten
  rw [List.filter_cons_of_neg (by simp [hc])] at hflatten
  exact .of_isParted h.isWord hflatten (h.isParted.of_drop hc)

theorem of_cut (h : Decomposes (c :: rest) ([c] :: words)) (hc : isSolid c = true) :
    Decomposes rest words := by
  have hflatten := h.flatten
  rw [List.filter_cons_of_pos hc] at hflatten
  exact .of_isParted (List.forall_mem_cons.mp h.isWord).2 (List.cons.inj hflatten).2
    (h.isParted.of_cut hc)

theorem of_grow (h : Decomposes (c :: rest) ((c :: w) :: words)) (hc : isSolid c = true)
    (hne : w ≠ []) : Decomposes rest (w :: words) := by
  obtain ⟨hw, hwords⟩ := List.forall_mem_cons.mp h.isWord
  have hrest : IsWord w := ⟨hne, (List.forall_mem_cons.mp hw.solid).2, hw.even.tail⟩
  have hflatten := h.flatten
  rw [List.filter_cons_of_pos hc] at hflatten
  exact .of_isParted (List.forall_mem_cons.mpr ⟨hrest, hwords⟩) (List.cons.inj hflatten).2
    (h.isParted.of_grow hc)

/-- A decomposition follows the rules. The induction is on the identifier; the rule for a solid
character is told by whether its word goes on behind it. -/
theorem splits {identifier : List Char} (h : Decomposes identifier words) :
    Splits identifier words := by
  induction identifier generalizing words with
  | nil =>
    obtain rfl := h.eq_nil
    exact .nil
  | cons c rest ih =>
    cases hc : isSolid c with
    | false => exact .drop hc (ih (h.of_drop hc))
    | true =>
      have hflatten := h.flatten
      rw [List.filter_cons_of_pos hc] at hflatten
      cases words with
      | nil => cases hflatten
      | cons w words =>
        cases w with
        | nil => exact absurd rfl (h.isWord [] List.mem_cons_self).nonempty
        | cons c' w =>
          obtain ⟨rfl, htail⟩ := List.cons.inj hflatten
          cases w with
          | nil =>
            refine .cut hc ?_ (ih (h.of_cut hc))
            intro d hd hsolid
            cases rest with
            | nil => cases hd
            | cons d' rest =>
              obtain rfl : d' = d := Option.some.inj hd
              exact (h.adjacent [] c' d' rest rfl hc hsolid).mp (by simp [wordIndex])
          | cons e w =>
            -- no word ends behind `c'`, so nothing was dropped there
            have hsame : wordIndex ((c' :: e :: w) :: words) 0 =
                wordIndex ((c' :: e :: w) :: words) 1 := by simp [wordIndex]
            obtain ⟨gap, back, rfl, hgap, he, -⟩ := List.filter_eq_cons_iff.mp htail.symm
            have hiff := h.isParted [] c' gap e back rfl hc he (by simpa using hgap)
            have hnone : ¬ (gap ≠ [] ∨ isBoundary c' e = true) := fun hends => hiff.mpr hends hsame
            obtain ⟨rfl, heven⟩ : gap = [] ∧ isBoundary c' e = false := by simpa using hnone
            exact .grow hc he heven (ih (h.of_grow hc (by simp)))

end Decomposes

/-- **The words of an identifier are its only right decomposition.** No word is empty or has a
separator, a blank or a boundary in it; together they are the identifier without its separators and
blanks; and of two solid characters that are next to each other, the second one starts a new word
exactly if they are a boundary. With characters that were dropped between them, two solid characters
are always in different words. -/
theorem splitWords_eq_iff (identifier : List Char) (words : List (List Char)) :
    splitWords identifier = words ↔ Decomposes identifier words := by
  constructor
  · rintro rfl
    exact (splits_splitWords identifier).decomposes
  · intro h
    exact h.splits.eq_splitWords.symm

end EntityStore
