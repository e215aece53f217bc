import EntityStore.Proofs.Casing.Decomposition
import Mathlib.Data.List.Forall2

/-!
# One casing after another

A casing that works by words can be applied to what another one has made: it finds the same words
again, in another spelling, and every casing spells them anew. This needs words of at least two
characters with the digits behind the letters, so that a capital is always recognized as the start
of a word and never stands inside of one.

* `IsPlainWord` — words of the form `[a-z]+[0-9]*` with two characters or more;
* `SpeltAlike`, `Casing.joinWords_congr` — spellings between which no casing tells a difference;
* `splitWords_append` — a word ends at a boundary;
* `Casing.alike_splitWords` — the words of a text in a casing;
* `casings_interchange` — only the last casing counts.
-/

namespace EntityStore

/-! ### Plain words -/

/-- Words of the form `[a-z]+[0-9]*` with two characters or more. -/
structure IsPlainWord (w : List Char) : Prop where
  form : ∃ letters digits, w = letters ++ digits ∧ letters ≠ [] ∧
    (∀ c ∈ letters, c.isLower = true) ∧ ∀ d ∈ digits, d.isDigit = true
  two_le : 2 ≤ w.length

namespace IsPlainWord

variable {w : List Char}

/-- A plain word starts with a letter, and something stands behind it. -/
theorem exists_cons (h : IsPlainWord w) :
    ∃ c rest, w = c :: rest ∧ rest ≠ [] ∧ c.isLower = true ∧
      ∀ d ∈ rest, NameStyle.snake.fits d = true := by
  obtain ⟨⟨letters, digits, rfl, hne, hletters, hdigits⟩, hlength⟩ := h
  cases letters with
  | nil => exact absurd rfl hne
  | cons c letters =>
    refine ⟨c, letters ++ digits, rfl, ?_, hletters c List.mem_cons_self, fun d hd => ?_⟩
    · intro hnil
      simp [hnil] at hlength
    · rcases List.mem_append.mp hd with hletter | hdigit
      · exact Bool.or_eq_true_iff.mpr (.inl (hletters d (List.mem_cons_of_mem c hletter)))
      · exact Bool.or_eq_true_iff.mpr (.inr (hdigits d hdigit))

theorem isWord_snake (h : IsPlainWord w) : NameStyle.snake.IsWord w := by
  obtain ⟨c, rest, rfl, -, hc, hrest⟩ := h.exists_cons
  exact ⟨c, rest, rfl, hc, fun d hd => Bool.or_eq_true_iff.mp (hrest d hd)⟩

theorem fits (h : IsPlainWord w) : ∀ d ∈ w, NameStyle.snake.fits d = true := by
  obtain ⟨-, -, -, -, hfits⟩ := h.isWord_snake.exists_cons
  exact hfits

/-- In capitals it is a word of a name in screaming snake case. -/
theorem isWord_screaming (h : IsPlainWord w) : NameStyle.screaming.IsWord (w.map Char.toUpper) := by
  obtain ⟨⟨letters, digits, rfl, hne, hletters, hdigits⟩, -⟩ := h
  refine ⟨letters.map Char.toUpper, digits, ?_, by simpa using hne, ?_, hdigits⟩
  · have hkept : digits.map Char.toUpper = digits :=
      @NameStyle.map_home .screaming digits fun d hd =>
        Bool.or_eq_true_iff.mpr (.inr (hdigits d hd))
    rw [List.map_append, hkept]
  · intro d hd
    obtain ⟨c, hc, rfl⟩ := List.mem_map.mp hd
    exact @NameStyle.isUpper_toUpper_of_isLetter .snake c (hletters c hc)

end IsPlainWord

/-! ### Spellings -/

/-- Two spellings of a word between which no casing tells a difference. -/
structure SpeltAlike (v w : List Char) : Prop where
  lower : Text.lower v = Text.lower w
  upper : Text.upper v = Text.upper w
  capitalized : Casing.capitalizeWord v = Casing.capitalizeWord w

namespace SpeltAlike

variable {v w : List Char} {vs ws : List (List Char)}

theorem map_eq {f : List Char → List Char} (hf : ∀ v w, SpeltAlike v w → f v = f w)
    (h : List.Forall₂ SpeltAlike vs ws) : vs.map f = ws.map f := by
  induction h with
  | nil => rfl
  | cons hfirst _ ih => rw [List.map_cons, List.map_cons, hf _ _ hfirst, ih]

end SpeltAlike

namespace Casing

variable {c : Casing} {vs ws : List (List Char)}

theorem joinWords_congr (h : List.Forall₂ SpeltAlike vs ws) (hlower : c ≠ lower)
    (hupper : c ≠ upper) : c.joinWords vs = c.joinWords ws := by
  have hlow := SpeltAlike.map_eq (fun _ _ h => h.lower) h
  have hup := SpeltAlike.map_eq (fun _ _ h => h.upper) h
  have hcapital {vs ws : List (List Char)} (h : List.Forall₂ SpeltAlike vs ws) :
      vs.flatMap capitalizeWord = ws.flatMap capitalizeWord := by
    rw [List.flatMap_def, SpeltAlike.map_eq (fun _ _ h => h.capitalized) h, List.flatMap_def]
  cases c with
  | lower => exact absurd rfl hlower
  | upper => exact absurd rfl hupper
  | camel =>
    cases h with
    | nil => rfl
    | cons hfirst hrest => rw [joinWords, joinWords, hfirst.lower, hcapital hrest]
  | pascal => exact hcapital h
  | snake | kebab => rw [joinWords, joinWords, hlow]
  | screamingSnake | screamingKebab => rw [joinWords, joinWords, hup]

/-- A casing that works by words joins the words of a text, if it has any. -/
theorem applyChars_of_splitWords {s : List Char} (hne : splitWords s ≠ []) (hlower : c ≠ lower)
    (hupper : c ≠ upper) : c.applyChars s = c.joinWords (splitWords s) := by
  cases hwords : splitWords s with
  | nil => exact absurd hwords hne
  | cons w ws =>
    rw [applyChars, hwords]
    · exact hlower
    · exact hupper

end Casing

/-! ### Spellings of a plain word -/

/-- A word whose characters behind the first one are small already is written with a capital in the
same way be it in capitals or not. -/
theorem Casing.capitalizeWord_of_small {c : Char} {rest : List Char}
    (hascii : Text.IsAscii (c :: rest)) (hsmall : rest.map Char.toLower = rest) :
    capitalizeWord (c :: rest) = c.toUpper :: rest := by
  by_cases hupper : Text.isUpper (c :: rest) = true
  · rw [capitalizeWord, if_pos hupper, Text.capitalize_of_ascii hascii, hsmall]
  · rw [capitalizeWord, if_neg hupper]
    exact congrArg (· ++ rest) (Text.upperChar_of_ascii hascii.head)

namespace IsPlainWord

variable {w : List Char}

theorem lower_eq (h : IsPlainWord w) : Text.lower w = w := by
  rw [Text.lower_of_ascii h.isWord_snake.ascii]
  exact NameStyle.map_home h.fits

theorem upper_eq (h : IsPlainWord w) : Text.upper w = w.map Char.toUpper :=
  Text.upper_of_ascii h.isWord_snake.ascii

/-- The capital at the start of a plain word and what stands behind it. -/
theorem exists_capitalized (h : IsPlainWord w) :
    ∃ c rest, w = c :: rest ∧ rest ≠ [] ∧ c.isLower = true ∧
      (∀ d ∈ rest, NameStyle.snake.fits d = true) ∧ rest.map Char.toLower = rest ∧
      Casing.capitalizeWord w = c.toUpper :: rest := by
  obtain ⟨c, rest, rfl, hne, hc, hrest⟩ := h.exists_cons
  have hsmall : rest.map Char.toLower = rest := NameStyle.map_home hrest
  exact ⟨c, rest, rfl, hne, hc, hrest, hsmall,
    Casing.capitalizeWord_of_small h.isWord_snake.ascii hsmall⟩

/-- The characters of a plain word in capitals are those of screaming snake case. -/
theorem fits_toUpper {d : Char} (hd : NameStyle.snake.fits d = true) :
    NameStyle.screaming.fits d.toUpper = true :=
  NameStyle.of_fits (fun d => NameStyle.screaming.fits d.toUpper = true) (by decide +kernel) hd

theorem toUpper_toUpper {d : Char} (hd : NameStyle.snake.fits d = true) :
    d.toUpper.toUpper = d.toUpper :=
  NameStyle.home_of_fits (fits_toUpper hd)

theorem toLower_toUpper {d : Char} (hd : NameStyle.snake.fits d = true) : d.toUpper.toLower = d :=
  (NameStyle.toUpper_of_fits hd).2

theorem map_toLower_toUpper {s : List Char} (hs : ∀ d ∈ s, NameStyle.snake.fits d = true) :
    (s.map Char.toUpper).map Char.toLower = s := by
  rw [List.map_map]
  exact (List.map_congr_left fun d hd => toLower_toUpper (hs d hd)).trans (List.map_id s)

theorem alike_lower (h : IsPlainWord w) : SpeltAlike (Text.lower w) w := by
  rw [h.lower_eq]
  exact ⟨rfl, rfl, rfl⟩

theorem alike_upper (h : IsPlainWord w) : SpeltAlike (Text.upper w) w := by
  have hscreaming := h.isWord_screaming
  obtain ⟨c, rest, rfl, -, -, -, -, hcapital⟩ := h.exists_capitalized
  have hfits := h.fits
  refine ⟨?_, ?_, ?_⟩
  · rw [h.upper_eq, Text.lower_of_ascii hscreaming.ascii, h.lower_eq, map_toLower_toUpper hfits]
  · rw [h.upper_eq, Text.upper_of_ascii hscreaming.ascii, List.map_map]
    exact List.map_congr_left fun d hd => toUpper_toUpper (hfits d hd)
  · obtain ⟨hc, hrest⟩ := List.forall_mem_cons.mp hfits
    rw [h.upper_eq, hcapital, List.map_cons, NameStyle.capitalizeWord_eq hscreaming,
      toUpper_toUpper hc, map_toLower_toUpper hrest]

theorem alike_capitalized (h : IsPlainWord w) : SpeltAlike (Casing.capitalizeWord w) w := by
  obtain ⟨c, rest, rfl, -, -, -, hsmall, hcapital⟩ := h.exists_capitalized
  obtain ⟨hc, hrest⟩ := List.forall_mem_cons.mp h.fits
  have hascii : Text.IsAscii (c.toUpper :: rest) := by
    refine List.forall_mem_cons.mpr ⟨?_, fun d hd => ?_⟩
    · exact NameStyle.ascii_of_fits (fits_toUpper hc)
    · exact NameStyle.ascii_of_fits (hrest d hd)
  refine ⟨?_, ?_, ?_⟩
  · rw [h.lower_eq, hcapital, Text.lower_of_ascii hascii, List.map_cons, toLower_toUpper hc, hsmall]
  · rw [h.upper_eq, hcapital, Text.upper_of_ascii hascii, List.map_cons, toUpper_toUpper hc,
      List.map_cons]
  · rw [hcapital, Casing.capitalizeWord_of_small hascii hsmall, toUpper_toUpper hc]

/-- Also with a capital at its start it is a word: no capital stands inside. -/
theorem isWord_capitalized (h : IsPlainWord w) : IsWord (Casing.capitalizeWord w) := by
  obtain ⟨c, rest, rfl, -, -, hrest, -, hcapital⟩ := h.exists_capitalized
  have hword := h.isWord_snake.isWord
  have hc := (List.forall_mem_cons.mp h.fits).1
  rw [hcapital]
  refine ⟨by simp, ?_, ?_⟩
  · refine List.forall_mem_cons.mpr ⟨NameStyle.solid_of_fits (fits_toUpper hc), ?_⟩
    exact (List.forall_mem_cons.mp hword.solid).2
  · refine List.isChain_cons.mpr ⟨fun d hd => ?_, hword.even.tail⟩
    have hsmall : d.isUpper = false :=
      NameStyle.of_fits (fun d => d.isUpper = false) (by decide +kernel)
        (hrest d (List.mem_of_mem_head? hd))
    rw [isBoundary, hsmall, Bool.and_false]

/-- Behind a plain word a capital is a boundary. -/
theorem ends_before (h : IsPlainWord w) {v : List Char} (hv : v = w ∨ v = Casing.capitalizeWord w)
    {b : Char} (hb : b.isUpper = true) : ∀ a ∈ v.getLast?, isBoundary a b = true := by
  obtain ⟨c, rest, rfl, hne, -, hrest, -, hcapital⟩ := h.exists_capitalized
  have hlast : v.getLast? = rest.getLast? := by
    cases rest with
    | nil => exact absurd rfl hne
    | cons d rest =>
      rcases hv with rfl | rfl
      · exact List.getLast?_cons_cons
      · rw [hcapital]
        exact List.getLast?_cons_cons
  intro a ha
  rw [hlast] at ha
  have hfits := hrest a (List.mem_of_getLast? ha)
  rw [isBoundary, hb, Bool.and_true]
  exact hfits

end IsPlainWord

/-! ### The words of a text in a casing -/

/-- A word ends at a boundary. The induction is on the word, whose characters stay together. -/
theorem splitWords_append {v rest : List Char} (hv : IsWord v)
    (hend : ∀ a ∈ v.getLast?, ∀ b ∈ rest.head?, isBoundary a b = true) :
    splitWords (v ++ rest) = v :: splitWords rest := by
  induction v with
  | nil => exact absurd rfl hv.nonempty
  | cons c v ih =>
    have hc : isSolid c = true := isSolid_iff.mpr (hv.solid c List.mem_cons_self)
    cases v with
    | nil => exact splitWords_cut hc fun b hb _ => hend c rfl b hb
    | cons d v =>
      obtain ⟨heven, hchain⟩ := List.isChain_cons_cons.mp hv.even
      have hd : isSolid d = true :=
        isSolid_iff.mpr (hv.solid d (List.mem_cons_of_mem c List.mem_cons_self))
      have htail : IsWord (d :: v) :=
        ⟨by simp, (List.forall_mem_cons.mp hv.solid).2, hchain⟩
      have hrest := ih htail (by simpa using hend)
      obtain ⟨w, ws, hfirst, hboth⟩ := splitWords_grow hc hd heven (v ++ rest)
      obtain ⟨rfl, rfl⟩ := List.cons.inj (hfirst.symm.trans hrest)
      exact hboth

namespace Casing

variable {words : List (List Char)}

theorem isUpper_head_capitalized (hwords : ∀ w ∈ words, IsPlainWord w) :
    ∀ b ∈ (words.flatMap capitalizeWord).head?, b.isUpper = true := by
  intro b hb
  cases words with
  | nil => cases hb
  | cons w words =>
    obtain ⟨c, rest, -, -, hc, -, -, hcapital⟩ :=
      (hwords w List.mem_cons_self).exists_capitalized
    rw [List.flatMap_cons, hcapital] at hb
    obtain rfl := Option.some.inj hb
    exact @NameStyle.isUpper_toUpper_of_isLetter .snake _ hc

/-- A plain word ends where words with capitals follow. -/
theorem splitWords_append_capitalized {w v : List Char} (hw : IsPlainWord w)
    (hv : v = w ∨ v = capitalizeWord w) (hwords : ∀ w ∈ words, IsPlainWord w) :
    splitWords (v ++ words.flatMap capitalizeWord) =
      v :: splitWords (words.flatMap capitalizeWord) := by
  have hword : IsWord v := by
    rcases hv with rfl | rfl
    · exact hw.isWord_snake.isWord
    · exact hw.isWord_capitalized
  exact splitWords_append hword fun a ha b hb =>
    hw.ends_before hv (isUpper_head_capitalized hwords b hb) a ha

/-- Without separators, every capital starts a word again. -/
theorem splitWords_capitalized (hwords : ∀ w ∈ words, IsPlainWord w) :
    splitWords (words.flatMap capitalizeWord) = words.map capitalizeWord := by
  induction words with
  | nil => rfl
  | cons w words ih =>
    obtain ⟨hw, hrest⟩ := List.forall_mem_cons.mp hwords
    rw [List.flatMap_cons, splitWords_append_capitalized hw (.inr rfl) hrest, ih hrest,
      List.map_cons]

/-- The casings that work by words. -/
def wordwise : List Casing := [camel, pascal, snake, screamingSnake, kebab, screamingKebab]

theorem forall₂_map {f : List Char → List Char} (hwords : ∀ w ∈ words, IsPlainWord w)
    (hf : ∀ w, IsPlainWord w → SpeltAlike (f w) w) :
    List.Forall₂ SpeltAlike (words.map f) words := by
  rw [List.forall₂_map_left_iff]
  exact List.forall₂_same.mpr fun w hw => hf w (hwords w hw)

/-- **A casing that works by words keeps the words,** in spellings between which no casing tells a
difference. -/
theorem alike_splitWords {c : Casing} (hc : c ∈ wordwise) (hne : words ≠ [])
    (hwords : ∀ w ∈ words, IsPlainWord w) :
    List.Forall₂ SpeltAlike (splitWords (c.joinWords words)) words := by
  have hlow : ∀ w ∈ words.map Text.lower, IsWord w := by
    intro v hv
    obtain ⟨w, hw, rfl⟩ := List.mem_map.mp hv
    rw [(hwords w hw).lower_eq]
    exact (hwords w hw).isWord_snake.isWord
  have hup : ∀ w ∈ words.map Text.upper, IsWord w := by
    intro v hv
    obtain ⟨w, hw, rfl⟩ := List.mem_map.mp hv
    rw [(hwords w hw).upper_eq]
    exact (hwords w hw).isWord_screaming.isWord
  cases c with
  | lower => simp [wordwise] at hc
  | upper => simp [wordwise] at hc
  | camel =>
    cases words with
    | nil => exact absurd rfl hne
    | cons w words =>
      obtain ⟨hw, hrest⟩ := List.forall_mem_cons.mp hwords
      rw [joinWords, splitWords_append_capitalized hw (.inl hw.lower_eq) hrest,
        splitWords_capitalized hrest]
      exact .cons hw.alike_lower (forall₂_map hrest fun _ => IsPlainWord.alike_capitalized)
  | pascal =>
    rw [joinWords, splitWords_capitalized hwords]
    exact forall₂_map hwords fun _ => IsPlainWord.alike_capitalized
  | snake | kebab =>
    rw [joinWords, splitWords_join rfl hlow]
    exact forall₂_map hwords fun _ => IsPlainWord.alike_lower
  | screamingSnake | screamingKebab =>
    rw [joinWords, splitWords_join rfl hup]
    exact forall₂_map hwords fun _ => IsPlainWord.alike_upper

theorem applyChars_applyChars {c d : Casing} (hc : c ∈ wordwise) (hd : d ∈ wordwise)
    (hne : words ≠ []) (hwords : ∀ w ∈ words, IsPlainWord w) :
    d.applyChars (c.applyChars (join '_' words)) = d.applyChars (join '_' words) := by
  have hwordwise {c : Casing} (hc : c ∈ wordwise) : c ≠ lower ∧ c ≠ upper := by
    constructor
    · rintro rfl
      simp [wordwise] at hc
    · rintro rfl
      simp [wordwise] at hc
  obtain ⟨hclower, hcupper⟩ := hwordwise hc
  obtain ⟨hdlower, hdupper⟩ := hwordwise hd
  have hsnake : ∀ w ∈ words, NameStyle.snake.IsWord w := fun w hw => (hwords w hw).isWord_snake
  have halike := alike_splitWords hc hne hwords
  have hfound : splitWords (c.joinWords words) ≠ [] := by
    intro hnone
    rw [hnone] at halike
    cases halike
    exact hne rfl
  calc d.applyChars (c.applyChars (join '_' words))
      = d.applyChars (c.joinWords words) := by
        rw [c.applyChars_join hclower hcupper hne hsnake]
    _ = d.joinWords (splitWords (c.joinWords words)) :=
        applyChars_of_splitWords hfound hdlower hdupper
    _ = d.joinWords words := joinWords_congr halike hdlower hdupper
    _ = d.applyChars (join '_' words) := by
        rw [d.applyChars_join hdlower hdupper hne hsnake]

end Casing

/-- **Only the last casing counts.** What one casing has made of plain words, another one turns into
what it would have made of them itself; in particular, a casing applied twice is applied once. -/
theorem casings_interchange (words : List (List Char)) (hne : words ≠ [])
    (hwords : ∀ w ∈ words, IsPlainWord w) (name : String)
    (hname : name.toList = Casing.join '_' words) (c d : Casing) (hc : c ∈ Casing.wordwise)
    (hd : d ∈ Casing.wordwise) :
    d.apply (c.apply name) = d.apply name ∧ c.apply (c.apply name) = c.apply name := by
  have hsecond {d : Casing} (hd : d ∈ Casing.wordwise) :
      d.apply (c.apply name) = d.apply name := by
    rw [Casing.apply, Casing.apply, Casing.apply, String.toList_ofList, hname,
      Casing.applyChars_applyChars hc hd hne hwords]
  exact ⟨hsecond hd, hsecond hc⟩

theorem isPlainWord_digit : IsPlainWord "a1".toList :=
  ⟨⟨['a'], ['1'], rfl, nofun, List.all_eq_true.mp rfl, List.all_eq_true.mp rfl⟩, by decide⟩

theorem isPlainWord_letters : IsPlainWord "bc".toList :=
  ⟨⟨['b', 'c'], [], rfl, nofun, List.all_eq_true.mp rfl, nofun⟩, by decide⟩

/-- A word with one letter is in capitals if its first character is one. -/
theorem casings_interchange_short :
    (∀ w ∈ ["a1".toList, "bc".toList], IsPlainWord w) ∧
      "a1_bc".toList = Casing.join '_' ["a1".toList, "bc".toList] ∧
      Casing.pascal.apply "a1_bc" = "A1Bc" ∧
      Casing.screamingKebab.apply "A1Bc" = Casing.screamingKebab.apply "a1_bc" ∧
      Casing.pascal.apply "A1Bc" = Casing.pascal.apply "a1_bc" := by
  have hwords : ∀ w ∈ ["a1".toList, "bc".toList], IsPlainWord w := by
    intro w hw
    rcases List.mem_pair.mp hw with rfl | rfl
    · exact isPlainWord_digit
    · exact isPlainWord_letters
  have hname : "a1_bc".toList = Casing.join '_' ["a1".toList, "bc".toList] := by decide
  have hpascal : Casing.pascal.apply "a1_bc" = "A1Bc" := by decide +kernel
  have hboth := casings_interchange ["a1".toList, "bc".toList] nofun hwords "a1_bc" hname .pascal
    .screamingKebab (by decide) (by decide)
  rw [hpascal] at hboth
  exact ⟨hwords, hname, hpascal, hboth.1, hboth.2⟩

end EntityStore
