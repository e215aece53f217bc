import EntityStore.Proofs.Casing.Letters
import EntityStore.Proofs.Casing.Words

/-!
# Names stay apart in every casing

Fields are named in snake case and members of enums in screaming snake case. A name of either style
can be read back from what a casing makes of it: without separators a capital starts a word, and the
letters of a word have the case of the style.

* `NameStyle.IsName` — the names of a style;
* `NameStyle.capitalizeWord_eq` — the rule for words in capitals and the rule for all others come to
  the same;
* `Casing.read` — reading a name back;
* `Casing.read_applyChars` — this gives the name;
* `names_distinct` — different names stay different.
-/

namespace EntityStore

/-! ### Names -/

/-- How names are written: `first_name`, or `FIRST_NAME`. -/
inductive NameStyle
  | snake
  | screaming

namespace NameStyle

/-- The letters of a style. -/
def isLetter : NameStyle → Char → Bool
  | snake, c => c.isLower
  | screaming, c => c.isUpper

/-- The words of a style: in snake case they have the form `[a-z][a-z0-9]*`, and in screaming snake
case the form `[A-Z]+[0-9]*`. -/
def IsWord : NameStyle → List Char → Prop
  | snake, w => ∃ c rest, w = c :: rest ∧ c.isLower = true ∧
      ∀ d ∈ rest, d.isLower = true ∨ d.isDigit = true
  | screaming, w => ∃ letters digits, w = letters ++ digits ∧ letters ≠ [] ∧
      (∀ c ∈ letters, c.isUpper = true) ∧ ∀ d ∈ digits, d.isDigit = true

/-- The names of a style: one word, or several that are joined by underscores. -/
def IsName (style : NameStyle) (s : String) : Prop :=
  ∃ words, words ≠ [] ∧ (∀ w ∈ words, style.IsWord w) ∧ s.toList = Casing.join '_' words

/-- The case of the letters of a style. -/
def home : NameStyle → Char → Char
  | snake => Char.toLower
  | screaming => Char.toUpper

/-! ### Characters of a name -/

/-- The characters of the words of a style. -/
def fits (style : NameStyle) (c : Char) : Bool := style.isLetter c || c.isDigit

variable {style : NameStyle} {c : Char}

theorem ascii_of_fits (h : style.fits c = true) : c.val < 0x80 := by
  rcases Bool.or_eq_true_iff.mp h with hletter | hdigit
  · cases style with
    | snake =>
      have hle : c.val ≤ 122 := of_decide_eq_true (Bool.and_eq_true_iff.mp hletter).2
      exact UInt32.lt_of_le_of_lt hle (by decide)
    | screaming =>
      have hle : c.val ≤ 90 := (of_decide_eq_true hletter).2
      exact UInt32.lt_of_le_of_lt hle (by decide)
  · have hle : c.val ≤ 57 := of_decide_eq_true (Bool.and_eq_true_iff.mp hdigit).2
    exact UInt32.lt_of_le_of_lt hle (by decide)

/-- Properties of the characters of names, one by one. -/
theorem of_fits (P : Char → Prop)
    (h : ∀ n < 128, style.fits (Char.ofNat n) = true → P (Char.ofNat n))
    (hc : style.fits c = true) : P c :=
  Text.of_ascii (fun c => style.fits c = true → P c) h (ascii_of_fits hc) hc

theorem solid_of_fits (h : style.fits c = true) : isSeparator c = false ∧ Text.isBlank c = false :=
  of_fits (fun c => isSeparator c = false ∧ Text.isBlank c = false)
    (by cases style <;> decide +kernel) h

theorem home_of_fits (h : style.fits c = true) : style.home c = c :=
  of_fits (fun c => style.home c = c) (by cases style <;> decide +kernel) h

theorem map_home {s : List Char} (h : ∀ d ∈ s, style.fits d = true) : s.map style.home = s :=
  (List.map_congr_left fun d hd => home_of_fits (h d hd)).trans (List.map_id s)

theorem toLower_of_fits (h : style.fits c = true) :
    isSeparator c.toLower = false ∧ c.toLower.isUpper = false ∧ style.home c.toLower = c :=
  of_fits (fun c => isSeparator c.toLower = false ∧ c.toLower.isUpper = false ∧
      style.home c.toLower = c)
    (by cases style <;> decide +kernel) h

theorem toUpper_of_fits (h : style.fits c = true) :
    isSeparator c.toUpper = false ∧ style.home c.toUpper = c :=
  of_fits (fun c => isSeparator c.toUpper = false ∧ style.home c.toUpper = c)
    (by cases style <;> decide +kernel) h

/-- A letter in capitals is a capital. -/
theorem isUpper_toUpper_of_isLetter (h : style.isLetter c = true) : c.toUpper.isUpper = true := by
  have hfits : style.fits c = true := Bool.or_eq_true_iff.mpr (.inl h)
  exact of_fits (fun c => style.isLetter c = true → c.toUpper.isUpper = true)
    (by cases style <;> decide +kernel) hfits h

/-! ### Words of a name -/

variable {w : List Char}

/-- A word starts with a letter, and only letters and digits of the style are in it. -/
theorem IsWord.exists_cons (h : style.IsWord w) :
    ∃ c rest, w = c :: rest ∧ style.isLetter c = true ∧ ∀ d ∈ w, style.fits d = true := by
  cases style with
  | snake =>
    obtain ⟨c, rest, rfl, hc, hrest⟩ := h
    refine ⟨c, rest, rfl, hc, List.forall_mem_cons.mpr ⟨?_, fun d hd => ?_⟩⟩
    · exact Bool.or_eq_true_iff.mpr (.inl hc)
    · exact Bool.or_eq_true_iff.mpr (hrest d hd)
  | screaming =>
    obtain ⟨letters, digits, rfl, hne, hletters, hdigits⟩ := h
    cases letters with
    | nil => exact absurd rfl hne
    | cons c letters =>
      refine ⟨c, letters ++ digits, rfl, hletters c List.mem_cons_self, fun d hd => ?_⟩
      rcases List.mem_append.mp hd with hletter | hdigit
      · exact Bool.or_eq_true_iff.mpr (.inl (hletters d hletter))
      · exact Bool.or_eq_true_iff.mpr (.inr (hdigits d hdigit))

theorem IsWord.ascii (h : style.IsWord w) : Text.IsAscii w := by
  obtain ⟨-, -, -, -, hfits⟩ := h.exists_cons
  exact fun d hd => ascii_of_fits (hfits d hd)

/-- No capital stands behind a small letter or a digit: in snake case there are no capitals, and in
screaming snake case the digits stand behind the letters. -/
theorem IsWord.even (h : style.IsWord w) : w.IsChain fun a b => isBoundary a b = false := by
  have hsmall (a : Char) {b : Char} (hb : b.isUpper = false) : isBoundary a b = false := by
    rw [isBoundary, hb, Bool.and_false]
  cases style with
  | snake =>
    obtain ⟨-, -, -, -, hfits⟩ := h.exists_cons
    have hnone (b : Char) (hb : b ∈ w) : b.isUpper = false :=
      of_fits (fun b => b.isUpper = false) (by decide +kernel) (hfits b hb)
    exact (List.pairwise_of_forall_mem_list fun a _ b hb => hsmall a (hnone b hb)).isChain
  | screaming =>
    obtain ⟨letters, digits, rfl, -, hletters, hdigits⟩ := h
    have hcapital (a b : Char) (ha : a ∈ letters) : isBoundary a b = false := by
      have hupper := hletters a ha
      have hfits : screaming.fits a = true := Bool.or_eq_true_iff.mpr (.inl hupper)
      have hneither : (a.isLower || a.isDigit) = false :=
        of_fits (fun a => a.isUpper = true → (a.isLower || a.isDigit) = false) (by decide +kernel)
          hfits hupper
      rw [isBoundary, hneither, Bool.false_and]
    have hdigit (a b : Char) (hb : b ∈ digits) : isBoundary a b = false := by
      have hisDigit := hdigits b hb
      have hfits : screaming.fits b = true := Bool.or_eq_true_iff.mpr (.inr hisDigit)
      exact hsmall a (of_fits (fun b => b.isDigit = true → b.isUpper = false) (by decide +kernel)
        hfits hisDigit)
    refine List.isChain_append.mpr ⟨?_, ?_, ?_⟩
    · exact (List.pairwise_of_forall_mem_list fun a ha b _ => hcapital a b ha).isChain
    · exact (List.pairwise_of_forall_mem_list fun a _ b hb => hdigit a b hb).isChain
    · intro a ha b _
      exact hcapital a b (List.mem_of_getLast? ha)

theorem IsWord.isWord (h : style.IsWord w) : EntityStore.IsWord w := by
  obtain ⟨c, rest, hw, -, hfits⟩ := h.exists_cons
  refine ⟨?_, fun d hd => solid_of_fits (hfits d hd), h.even⟩
  rw [hw]
  exact List.cons_ne_nil c rest

/-- **A word with a capital at its start.** In snake case the word is not in capitals and keeps what
stands behind its first letter, which is small already; in screaming snake case it becomes small. -/
theorem capitalizeWord_eq {c : Char} {rest : List Char} (h : style.IsWord (c :: rest)) :
    Casing.capitalizeWord (c :: rest) = c.toUpper :: rest.map Char.toLower := by
  have hascii := h.ascii
  cases style with
  | snake =>
    obtain ⟨c', rest', hcons, hc, hrest⟩ := h
    obtain ⟨rfl, rfl⟩ := List.cons.inj hcons
    have hnot : ¬ Text.isUpper (c :: rest) = true := by
      intro hupper
      have hlower := ((Text.isUpper_of_ascii hascii).mp hupper).2 c List.mem_cons_self
      exact absurd (hc.symm.trans hlower) nofun
    have hkept : rest.map Char.toLower = rest :=
      @map_home .snake rest fun d hd => Bool.or_eq_true_iff.mpr (hrest d hd)
    rw [Casing.capitalizeWord, if_neg hnot, hkept]
    exact congrArg (· ++ rest) (Text.upperChar_of_ascii hascii.head)
  | screaming =>
    obtain ⟨c', rest', hcons, hc, hfits⟩ := h.exists_cons
    obtain ⟨rfl, rfl⟩ := List.cons.inj hcons
    have hupper : Text.isUpper (c :: rest) = true := by
      refine (Text.isUpper_of_ascii hascii).mpr ⟨⟨c, List.mem_cons_self, hc⟩, fun d hd => ?_⟩
      exact of_fits (fun d => d.isLower = false) (by decide +kernel) (hfits d hd)
    rw [Casing.capitalizeWord, if_pos hupper, Text.capitalize_of_ascii hascii]

end NameStyle

/-! ### Reading a name back -/

namespace Casing

/-- What a character of a cased name stands for. Without separators a capital starts a word. -/
def readChar (c : Casing) (style : NameStyle) (d : Char) : List Char :=
  match c with
  | camel | pascal => if d.isUpper then ['_', style.home d] else [style.home d]
  | lower | upper | snake | screamingSnake | kebab | screamingKebab =>
    if isSeparator d then ['_'] else [style.home d]

/-- The name that a text in a casing stands for. No underscore stands before the first word. -/
def read (c : Casing) (style : NameStyle) (s : List Char) : List Char :=
  match c with
  | pascal => (s.flatMap (c.readChar style)).tail
  | lower | upper | camel | snake | screamingSnake | kebab | screamingKebab =>
    s.flatMap (c.readChar style)

variable {c : Casing} {style : NameStyle} {w : List Char} {words : List (List Char)}

/-- A casing that works by words joins those of the name. -/
theorem applyChars_join (c : Casing) (hlower : c ≠ lower) (hupper : c ≠ upper) (hne : words ≠ [])
    (hwords : ∀ w ∈ words, style.IsWord w) :
    c.applyChars (join '_' words) = c.joinWords words := by
  have hsplit : splitWords (join '_' words) = words :=
    splitWords_join rfl fun w hw => (hwords w hw).isWord
  cases words with
  | nil => exact absurd rfl hne
  | cons w words =>
    rw [applyChars, hsplit]
    · exact hlower
    · exact hupper

theorem map_join (f : Char → Char) (separator : Char) (words : List (List Char)) :
    (join separator words).map f = join (f separator) (words.map (List.map f)) := by
  cases words with
  | nil => rfl
  | cons w words =>
    rw [join_cons, List.map_append, List.map_flatMap, List.map_cons, join_cons, List.flatMap_map]
    rfl

theorem ascii_join (hwords : ∀ w ∈ words, style.IsWord w) : Text.IsAscii (join '_' words) := by
  cases words with
  | nil => exact nofun
  | cons w words =>
    obtain ⟨hw, hrest⟩ := List.forall_mem_cons.mp hwords
    rw [join_cons]
    intro d hd
    rcases List.mem_append.mp hd with hfirst | hlater
    · exact hw.ascii d hfirst
    · obtain ⟨v, hv, hin⟩ := List.mem_flatMap.mp hlater
      rcases List.mem_cons.mp hin with rfl | hin
      · decide
      · exact (hrest v hv).ascii d hin

/-- All other casings than these two join the words, in one of the two letter cases. -/
theorem applyChars_joined (hcamel : c ≠ camel) (hpascal : c ≠ pascal) (hne : words ≠ [])
    (hwords : ∀ w ∈ words, style.IsWord w) :
    ∃ separator f, isSeparator separator = true ∧ (f = Char.toLower ∨ f = Char.toUpper) ∧
      c.applyChars (join '_' words) = join separator (words.map (List.map f)) := by
  have hascii := ascii_join hwords
  have hlow : words.map Text.lower = words.map (List.map Char.toLower) :=
    List.map_congr_left fun w hw => Text.lower_of_ascii (hwords w hw).ascii
  have hup : words.map Text.upper = words.map (List.map Char.toUpper) :=
    List.map_congr_left fun w hw => Text.upper_of_ascii (hwords w hw).ascii
  cases c with
  | camel => exact absurd rfl hcamel
  | pascal => exact absurd rfl hpascal
  | lower =>
    refine ⟨'_', Char.toLower, rfl, .inl rfl, ?_⟩
    rw [applyChars, Text.lower_of_ascii hascii, map_join]
    rfl
  | upper =>
    refine ⟨'_', Char.toUpper, rfl, .inr rfl, ?_⟩
    rw [applyChars, Text.upper_of_ascii hascii, map_join]
    rfl
  | snake =>
    refine ⟨'_', Char.toLower, rfl, .inl rfl, ?_⟩
    rw [snake.applyChars_join nofun nofun hne hwords, joinWords, hlow]
  | screamingSnake =>
    refine ⟨'_', Char.toUpper, rfl, .inr rfl, ?_⟩
    rw [screamingSnake.applyChars_join nofun nofun hne hwords, joinWords, hup]
  | kebab =>
    refine ⟨'-', Char.toLower, rfl, .inl rfl, ?_⟩
    rw [kebab.applyChars_join nofun nofun hne hwords, joinWords, hlow]
  | screamingKebab =>
    refine ⟨'-', Char.toUpper, rfl, .inr rfl, ?_⟩
    rw [screamingKebab.applyChars_join nofun nofun hne hwords, joinWords, hup]

/-- Joined words are read back word by word. -/
theorem flatMap_join {g : Char → List Char} {f : Char → Char} {separator : Char}
    (hseparator : g separator = ['_'])
    (hg : ∀ w ∈ words, (w.map f).flatMap g = w) :
    (join separator (words.map (List.map f))).flatMap g = join '_' words := by
  cases words with
  | nil => rfl
  | cons w words =>
    obtain ⟨hw, hrest⟩ := List.forall_mem_cons.mp hg
    have hlater (v : List Char) (hv : v ∈ words) :
        (separator :: v.map f).flatMap g = '_' :: v := by
      rw [List.flatMap_cons, hseparator, hrest v hv]
      rfl
    rw [List.map_cons, join_cons, List.flatMap_append, hw, List.flatMap_map, List.flatMap_assoc,
      List.flatMap_congr hlater, join_cons]

/-- A word is read back character by character where each of them is. -/
theorem flatMap_map_eq_self {g : Char → List Char} {f : Char → Char}
    (h : ∀ d ∈ w, g (f d) = [d]) : (w.map f).flatMap g = w := by
  rw [List.flatMap_map, List.flatMap_congr h]
  exact List.flatMap_singleton' w

/-- A word in small letters has no capital that would start another one. -/
theorem flatMap_readChar_lower (hc : c = camel ∨ c = pascal) (hw : ∀ d ∈ w, style.fits d = true) :
    (w.map Char.toLower).flatMap (c.readChar style) = w := by
  refine flatMap_map_eq_self fun d hd => ?_
  obtain ⟨-, hsmall, hhome⟩ := NameStyle.toLower_of_fits (hw d hd)
  rcases hc with rfl | rfl
  · rw [readChar, hsmall, hhome, if_neg Bool.false_ne_true]
  · rw [readChar, hsmall, hhome, if_neg Bool.false_ne_true]

/-- The capital of a word is read as its start. -/
theorem flatMap_readChar_capitalized (hc : c = camel ∨ c = pascal) (hw : style.IsWord w) :
    (capitalizeWord w).flatMap (c.readChar style) = '_' :: w := by
  obtain ⟨a, rest, rfl, ha, hfits⟩ := hw.exists_cons
  obtain ⟨hafits, hrest⟩ := List.forall_mem_cons.mp hfits
  have hcapital := NameStyle.isUpper_toUpper_of_isLetter ha
  have hhome := (NameStyle.toUpper_of_fits hafits).2
  have hread : c.readChar style a.toUpper = ['_', a] := by
    rcases hc with rfl | rfl
    · rw [readChar, hcapital, hhome, if_pos rfl]
    · rw [readChar, hcapital, hhome, if_pos rfl]
  rw [NameStyle.capitalizeWord_eq hw, List.flatMap_cons, hread, flatMap_readChar_lower hc hrest]
  rfl

theorem flatMap_readChar_words (hc : c = camel ∨ c = pascal)
    (hwords : ∀ w ∈ words, style.IsWord w) :
    (words.flatMap capitalizeWord).flatMap (c.readChar style) = words.flatMap ('_' :: ·) := by
  rw [List.flatMap_assoc]
  exact List.flatMap_congr fun w hw => flatMap_readChar_capitalized hc (hwords w hw)

/-- **A name is read back from each of its casings.** -/
theorem read_applyChars (c : Casing) (hne : words ≠ []) (hwords : ∀ w ∈ words, style.IsWord w) :
    c.read style (c.applyChars (join '_' words)) = join '_' words := by
  by_cases hcamel : c = camel
  · subst hcamel
    rw [camel.applyChars_join nofun nofun hne hwords]
    cases words with
    | nil => exact absurd rfl hne
    | cons w words =>
      obtain ⟨hw, hrest⟩ := List.forall_mem_cons.mp hwords
      obtain ⟨-, -, -, -, hfits⟩ := hw.exists_cons
      rw [joinWords, read, List.flatMap_append, Text.lower_of_ascii hw.ascii,
        flatMap_readChar_lower (.inl rfl) hfits, flatMap_readChar_words (.inl rfl) hrest,
        join_cons]
  by_cases hpascal : c = pascal
  · subst hpascal
    rw [pascal.applyChars_join nofun nofun hne hwords]
    cases words with
    | nil => exact absurd rfl hne
    | cons w words =>
      rw [joinWords, read, flatMap_readChar_words (.inr rfl) hwords, join_cons]
      rfl
  · obtain ⟨separator, f, hseparator, hf, happly⟩ := applyChars_joined hcamel hpascal hne hwords
    have hchar (d : Char) :
        c.readChar style d = if isSeparator d then ['_'] else [style.home d] := by
      cases c with
      | camel => exact absurd rfl hcamel
      | pascal => exact absurd rfl hpascal
      | _ => rfl
    have hread (s : List Char) : c.read style s = s.flatMap (c.readChar style) := by
      cases c with
      | pascal => exact absurd rfl hpascal
      | _ => rfl
    rw [happly, hread]
    refine flatMap_join (by rw [hchar, if_pos hseparator]) fun w hw => ?_
    obtain ⟨-, -, -, -, hfits⟩ := (hwords w hw).exists_cons
    refine flatMap_map_eq_self fun d hd => ?_
    rcases hf with rfl | rfl
    · obtain ⟨hplain, -, hhome⟩ := NameStyle.toLower_of_fits (hfits d hd)
      rw [hchar, hplain, hhome, if_neg Bool.false_ne_true]
    · obtain ⟨hplain, hhome⟩ := NameStyle.toUpper_of_fits (hfits d hd)
      rw [hchar, hplain, hhome, if_neg Bool.false_ne_true]

end Casing

/-- **Different names stay different** in every casing, be they fields in snake case or members in
screaming snake case. -/
theorem names_distinct (c : Casing) (style : NameStyle) (a b : String) (ha : style.IsName a)
    (hb : style.IsName b) (hne : a ≠ b) : c.apply a ≠ c.apply b := by
  obtain ⟨words, hwords, hstyle, ha⟩ := ha
  obtain ⟨words', hwords', hstyle', hb⟩ := hb
  intro heq
  apply hne
  have hread := c.read_applyChars hwords hstyle
  have hread' := c.read_applyChars hwords' hstyle'
  rw [← ha] at hread
  rw [← hb] at hread'
  rw [← String.toList_inj, ← hread, ← hread']
  rw [Casing.apply, Casing.apply] at heq
  rw [String.ofList_injective heq]

theorem isName_letters : NameStyle.snake.IsName "a_b2" := by
  refine ⟨[['a'], ['b', '2']], nofun, ?_, by decide⟩
  intro w hw
  rcases List.mem_pair.mp hw with rfl | rfl
  · exact ⟨'a', [], rfl, rfl, nofun⟩
  · exact ⟨'b', ['2'], rfl, rfl, fun d hd => .inr (List.mem_singleton.mp hd ▸ rfl)⟩

theorem isName_word : NameStyle.snake.IsName "ab2" := by
  refine ⟨[['a', 'b', '2']], nofun, ?_, by decide⟩
  intro w hw
  obtain rfl := List.mem_singleton.mp hw
  refine ⟨'a', ['b', '2'], rfl, rfl, fun d hd => ?_⟩
  rcases List.mem_pair.mp hd with rfl | rfl
  · exact .inl rfl
  · exact .inr rfl

theorem isName_capitals : NameStyle.screaming.IsName "A1_B" := by
  refine ⟨[['A', '1'], ['B']], nofun, ?_, by decide⟩
  intro w hw
  rcases List.mem_pair.mp hw with rfl | rfl
  · exact ⟨['A'], ['1'], rfl, nofun, List.all_eq_true.mp rfl, List.all_eq_true.mp rfl⟩
  · exact ⟨['B'], [], rfl, nofun, List.all_eq_true.mp rfl, List.all_eq_true.mp rfl⟩

theorem isName_capital : NameStyle.screaming.IsName "AB1" := by
  refine ⟨[['A', 'B', '1']], nofun, ?_, by decide⟩
  intro w hw
  obtain rfl := List.mem_singleton.mp hw
  exact ⟨['A', 'B'], ['1'], rfl, nofun, List.all_eq_true.mp rfl, List.all_eq_true.mp rfl⟩

/-- Words of one letter, with and without digits, in casings without separators. -/
theorem names_distinct_short :
    (NameStyle.snake.IsName "a_b2" ∧ NameStyle.snake.IsName "ab2" ∧
      Casing.camel.apply "a_b2" = "aB2" ∧ Casing.camel.apply "ab2" = "ab2" ∧
      Casing.camel.apply "a_b2" ≠ Casing.camel.apply "ab2") ∧
    NameStyle.screaming.IsName "A1_B" ∧ NameStyle.screaming.IsName "AB1" ∧
      Casing.pascal.apply "A1_B" = "A1B" ∧ Casing.pascal.apply "AB1" = "Ab1" ∧
      Casing.pascal.apply "A1_B" ≠ Casing.pascal.apply "AB1" := by
  refine ⟨⟨isName_letters, isName_word, by decide +kernel, by decide +kernel, ?_⟩,
    isName_capitals, isName_capital, by decide +kernel, by decide +kernel, ?_⟩
  · exact names_distinct .camel .snake "a_b2" "ab2" isName_letters isName_word (by decide)
  · exact names_distinct .pascal .screaming "A1_B" "AB1" isName_capitals isName_capital (by decide)

end EntityStore
