import EntityStore.Value
import Mathlib.Data.List.Dedup
import Mathlib.Data.List.Forall2
import Mathlib.Data.List.Nodup

/-!
# Association lists with distinct names

Where no name is repeated, looking up a name finds the one entry that has it, and setting all
entries one by one gives the list itself. Where names are repeated, the last entry for a name
counts, and fewer entries are left.

* `lookup_of_mem`, `lookup_filterMap` — every entry is found under its name;
* `lookup_of_perm` — the order of the entries does not count;
* `assignAll_of_nodup` — entries with distinct names are kept as they are;
* `lookup_assignAll`, `length_assignAll_lt` — what is left of entries with repeated names;
* `lookup_unassign`, `unassign_head` — taking an entry away;
* `unassignAll` — taking all entries with some names away;
* `Entrywise` — two lists with the same names and related entries.
-/

namespace EntityStore

variable {α : Type}

/-! ### Looking up -/

theorem mem_of_lookup {name : String} {a : α} {entries : List (String × α)}
    (h : entries.lookup name = some a) : (name, a) ∈ entries := by
  obtain ⟨front, back, hsplit, _⟩ := List.lookup_eq_some_iff.mp h
  rw [hsplit]
  exact List.mem_append_right front List.mem_cons_self

/-- An entry is found under its name if no other entry has the name. -/
theorem lookup_of_mem {name : String} {a : α} {entries : List (String × α)}
    (hnodup : (entries.map Prod.fst).Nodup) (h : (name, a) ∈ entries) :
    entries.lookup name = some a := by
  induction entries with
  | nil => cases h
  | cons e rest ih =>
    obtain ⟨n, b⟩ := e
    obtain ⟨hn, hrest⟩ := List.nodup_cons.mp hnodup
    rcases List.mem_cons.mp h with heq | hmem
    · cases heq
      exact List.lookup_cons_self
    · have hname : name ≠ n := by
        intro heq
        exact hn (List.mem_map.mpr ⟨(name, a), hmem, heq⟩)
      rw [List.lookup_cons, beq_eq_false_iff_ne.mpr hname]
      exact ih hrest hmem

/-- What a function gives for items with distinct names is found under their names. -/
theorem lookup_filterMap {β : Type} (name : β → String) (g : β → Option α) {bs : List β}
    (hnodup : (bs.map name).Nodup) {b : β} (hb : b ∈ bs) :
    (bs.filterMap fun b => (g b).map (name b, ·)).lookup (name b) = g b := by
  have hnames : (bs.filterMap fun b => (g b).map (name b, ·)).map Prod.fst =
      (bs.filter fun b => (g b).isSome).map name := by
    rw [List.map_filterMap, ← List.filterMap_eq_map, ← List.filterMap_eq_filter,
      List.filterMap_filterMap]
    refine List.filterMap_congr fun c _ => ?_
    cases hc : g c <;> simp [Option.guard, hc]
  cases hg : g b with
  | some a =>
    refine lookup_of_mem ?_ (List.mem_filterMap.mpr ⟨b, hb, by rw [hg]; rfl⟩)
    rw [hnames]
    exact hnodup.sublist (List.filter_sublist.map name)
  | none =>
    refine List.lookup_eq_none_iff.mpr fun e he => ?_
    have hmem : e.1 ∈ (bs.filter fun b => (g b).isSome).map name :=
      hnames ▸ List.mem_map_of_mem he
    obtain ⟨c, hc, hname⟩ := List.mem_map.mp hmem
    obtain ⟨hcmem, hsome⟩ := List.mem_filter.mp hc
    rw [bne_iff_ne]
    rintro heq
    obtain rfl := List.inj_on_of_nodup_map hnodup hcmem hb (hname.trans heq.symm)
    simp [hg] at hsome

theorem lookup_eq_none_iff {name : String} {entries : List (String × α)} :
    entries.lookup name = none ↔ name ∉ entries.map Prod.fst := by
  rw [List.lookup_eq_none_iff, List.mem_map]
  constructor
  · rintro h ⟨e, he, rfl⟩
    simpa using h e he
  · intro h e he
    exact bne_iff_ne.mpr fun heq => h ⟨e, he, heq.symm⟩

/-- A name is found in any order of entries whose names are distinct. -/
theorem lookup_of_perm {as bs : List (String × α)} (h : as.Perm bs)
    (hnodup : (as.map Prod.fst).Nodup) (name : String) : as.lookup name = bs.lookup name := by
  have hnodup' : (bs.map Prod.fst).Nodup := (h.map Prod.fst).nodup_iff.mp hnodup
  cases ha : as.lookup name with
  | some a => exact (lookup_of_mem hnodup' (h.mem_iff.mp (mem_of_lookup ha))).symm
  | none =>
    rw [lookup_eq_none_iff, (h.map Prod.fst).mem_iff] at ha
    exact (lookup_eq_none_iff.mpr ha).symm

/-! ### Setting -/

theorem mem_assign {name : String} {a : α} {entries : List (String × α)} {e : String × α}
    (h : e ∈ assign name a entries) : e = (name, a) ∨ e ∈ entries := by
  induction entries with
  | nil => exact Or.inl (List.mem_singleton.mp h)
  | cons first rest ih =>
    obtain ⟨n, b⟩ := first
    by_cases heq : n = name
    · simp only [assign, heq, beq_self_eq_true, if_true] at h
      rcases List.mem_cons.mp h with hfirst | hrest
      · exact Or.inl hfirst
      · exact Or.inr (List.mem_cons_of_mem _ hrest)
    · simp only [assign, beq_iff_eq, if_neg heq] at h
      rcases List.mem_cons.mp h with hfirst | hrest
      · exact Or.inr (hfirst ▸ List.mem_cons_self)
      · rcases ih hrest with hnew | hold
        · exact Or.inl hnew
        · exact Or.inr (List.mem_cons_of_mem _ hold)

/-- A new name goes to the end. -/
theorem assign_of_not_mem {name : String} (a : α) {entries : List (String × α)}
    (h : name ∉ entries.map Prod.fst) : assign name a entries = entries ++ [(name, a)] := by
  induction entries with
  | nil => rfl
  | cons e rest ih =>
    obtain ⟨n, b⟩ := e
    have hne : n ≠ name := fun heq => h (heq ▸ List.mem_cons_self)
    have hrest : name ∉ rest.map Prod.fst := fun hmem => h (List.mem_cons_of_mem _ hmem)
    simp only [assign, beq_iff_eq, if_neg hne]
    rw [ih hrest, List.cons_append]

/-- Setting entries one by one behind others, when no name occurs twice. -/
theorem foldl_assign (entries : List (String × α)) :
    ∀ done : List (String × α), ((done ++ entries).map Prod.fst).Nodup →
      entries.foldl (fun done e => assign e.1 e.2 done) done = done ++ entries := by
  induction entries with
  | nil => intro done _; rw [List.append_nil]; rfl
  | cons e rest ih =>
    intro done hnodup
    have hnew : e.1 ∉ done.map Prod.fst := by
      rw [List.map_append, List.map_cons] at hnodup
      intro hmem
      exact (List.nodup_append.mp hnodup).2.2 _ hmem _ List.mem_cons_self rfl
    rw [List.foldl_cons, assign_of_not_mem e.2 hnew]
    have happend : done ++ [(e.1, e.2)] ++ rest = done ++ e :: rest := by
      rw [List.append_assoc]
      rfl
    rw [ih (done ++ [(e.1, e.2)]) (by rw [happend]; exact hnodup), happend]

theorem assignAll_of_nodup {entries : List (String × α)} (h : (entries.map Prod.fst).Nodup) :
    assignAll entries = entries :=
  foldl_assign entries [] h

/-! ### Repeated names -/

theorem mem_names_assign {n name : String} {a : α} {entries : List (String × α)} :
    n ∈ (assign name a entries).map Prod.fst ↔ n = name ∨ n ∈ entries.map Prod.fst := by
  induction entries with
  | nil => simp [assign]
  | cons e rest ih =>
    obtain ⟨m, b⟩ := e
    by_cases heq : m = name
    · simp [assign, heq]
    · simp only [assign, beq_iff_eq, if_neg heq, List.map_cons, List.mem_cons, ih]
      exact or_left_comm

/-- A name that is there already keeps its place. -/
theorem nodup_assign {name : String} {a : α} {entries : List (String × α)}
    (h : (entries.map Prod.fst).Nodup) : ((assign name a entries).map Prod.fst).Nodup := by
  induction entries with
  | nil => exact List.nodup_singleton name
  | cons e rest ih =>
    obtain ⟨m, b⟩ := e
    obtain ⟨hm, hrest⟩ := List.nodup_cons.mp h
    by_cases heq : m = name
    · simpa [assign, heq] using h
    · simp only [assign, beq_iff_eq, if_neg heq, List.map_cons]
      refine List.nodup_cons.mpr ⟨?_, ih hrest⟩
      rw [mem_names_assign]
      exact not_or.mpr ⟨heq, hm⟩

theorem lookup_assign_self (name : String) (a : α) (entries : List (String × α)) :
    (assign name a entries).lookup name = some a := by
  induction entries with
  | nil => exact List.lookup_cons_self
  | cons e rest ih =>
    obtain ⟨m, b⟩ := e
    by_cases heq : m = name
    · simp [assign, heq]
    · have hne : (name == m) = false := beq_eq_false_iff_ne.mpr (Ne.symm heq)
      simp only [assign, beq_iff_eq, if_neg heq]
      rw [List.lookup_cons, hne]
      exact ih

theorem lookup_assign_of_ne {name other : String} (h : other ≠ name) (a : α)
    (entries : List (String × α)) :
    (assign name a entries).lookup other = entries.lookup other := by
  have hname : (other == name) = false := beq_eq_false_iff_ne.mpr h
  induction entries with
  | nil =>
    rw [assign, List.lookup_cons, hname]
  | cons e rest ih =>
    obtain ⟨m, b⟩ := e
    by_cases heq : m = name
    · simp [assign, heq, List.lookup_cons, hname]
    · simp only [assign, beq_iff_eq, if_neg heq]
      rw [List.lookup_cons, List.lookup_cons, ih]

/-- Setting entries one by one sets their names, each once. -/
theorem names_foldl_assign (entries : List (String × α)) :
    ∀ done : List (String × α), (done.map Prod.fst).Nodup →
      ((entries.foldl (fun done e => assign e.1 e.2 done) done).map Prod.fst).Nodup ∧
      ∀ n, n ∈ (entries.foldl (fun done e => assign e.1 e.2 done) done).map Prod.fst ↔
        n ∈ done.map Prod.fst ∨ n ∈ entries.map Prod.fst := by
  induction entries with
  | nil =>
    intro done hdone
    exact ⟨hdone, fun n => by simp⟩
  | cons e rest ih =>
    intro done hdone
    obtain ⟨hnodup, hmem⟩ := ih (assign e.1 e.2 done) (nodup_assign hdone)
    refine ⟨hnodup, fun n => ?_⟩
    rw [List.foldl_cons, hmem n, mem_names_assign, List.map_cons, List.mem_cons]
    tauto

/-- Entries of which two have the same name become fewer when they are set one by one. -/
theorem length_assignAll_lt {entries : List (String × α)} (h : ¬ (entries.map Prod.fst).Nodup) :
    (assignAll entries).length < entries.length := by
  obtain ⟨hnodup, hmem⟩ := names_foldl_assign entries [] List.nodup_nil
  have hperm : ((assignAll entries).map Prod.fst).Perm (entries.map Prod.fst).dedup := by
    refine (List.perm_ext_iff_of_nodup hnodup (List.nodup_dedup _)).mpr fun n => ?_
    rw [List.mem_dedup, hmem n]
    simp
  have hsub : (entries.map Prod.fst).dedup.Sublist (entries.map Prod.fst) := List.dedup_sublist _
  have hlength : (assignAll entries).length = (entries.map Prod.fst).dedup.length := by
    rw [← hperm.length_eq, List.length_map]
  rw [hlength, ← List.length_map Prod.fst]
  refine Nat.lt_of_le_of_ne hsub.length_le fun heq => ?_
  exact h (List.dedup_eq_self.mp (hsub.eq_of_length heq))

/-- Of several entries for a name, the last one counts. -/
theorem lookup_assignAll {name : String} {a : α} {front back : List (String × α)}
    (h : name ∉ back.map Prod.fst) :
    (assignAll (front ++ (name, a) :: back)).lookup name = some a := by
  -- the entries behind are set under other names, so that what is found stays
  have hkept : ∀ done : List (String × α), done.lookup name = some a →
      (back.foldl (fun done e => assign e.1 e.2 done) done).lookup name = some a := by
    induction back with
    | nil => exact fun done hdone => hdone
    | cons e rest ih =>
      intro done hdone
      rw [List.map_cons, List.mem_cons, not_or] at h
      refine ih h.2 _ ?_
      rw [lookup_assign_of_ne h.1]
      exact hdone
  rw [assignAll, List.foldl_append, List.foldl_cons]
  exact hkept _ (lookup_assign_self name a _)

/-! ### Taking away -/

theorem unassign_of_not_mem {name : String} {entries : List (String × α)}
    (h : name ∉ entries.map Prod.fst) : unassign name entries = entries := by
  refine List.filter_eq_self.mpr ?_
  intro e he
  refine bne_iff_ne.mpr ?_
  intro heq
  exact h (heq ▸ List.mem_map_of_mem he)

/-- The other names are found as before. -/
theorem lookup_unassign {name other : String} (h : other ≠ name) (entries : List (String × α)) :
    (unassign name entries).lookup other = entries.lookup other := by
  induction entries with
  | nil => rfl
  | cons e rest ih =>
    obtain ⟨n, a⟩ := e
    rw [unassign] at ih ⊢
    by_cases hn : n = name
    · have hne : (other == n) = false := beq_eq_false_iff_ne.mpr fun heq => h (heq.trans hn)
      rw [List.filter_cons_of_neg (by simp [hn]), ih, List.lookup_cons, hne]
    · rw [List.filter_cons_of_pos (by simp [hn]), List.lookup_cons, List.lookup_cons, ih]

/-- Without the name of its first entry, a list with distinct names is its tail. -/
theorem unassign_head {name : String} {a : α} {rest : List (String × α)}
    (h : (((name, a) :: rest).map Prod.fst).Nodup) : unassign name ((name, a) :: rest) = rest := by
  have hn : name ∉ rest.map Prod.fst := (List.nodup_cons.mp h).1
  show List.filter (fun e => e.1 != name) ((name, a) :: rest) = rest
  rw [List.filter_cons_of_neg (by simp)]
  exact unassign_of_not_mem hn

/-- An association list without several names. -/
def unassignAll (names : List String) (entries : List (String × α)) : List (String × α) :=
  entries.filter fun e => !names.contains e.1

@[simp] theorem unassignAll_nil (entries : List (String × α)) : unassignAll [] entries = entries :=
  List.filter_eq_self.mpr fun _ _ => rfl

theorem unassign_unassignAll (name : String) (names : List String) (entries : List (String × α)) :
    unassign name (unassignAll names entries) = unassignAll (names ++ [name]) entries := by
  rw [unassign, unassignAll, unassignAll, List.filter_filter]
  refine List.filter_congr fun e _ => ?_
  rw [List.contains_eq_any_beq, List.contains_eq_any_beq, List.any_append]
  simp [bne, Bool.and_comm]

/-- The names that are taken away are not found, and the others are found as before. -/
theorem lookup_unassignAll (names : List String) (entries : List (String × α)) (name : String) :
    (unassignAll names entries).lookup name =
      if name ∈ names then none else entries.lookup name := by
  induction entries with
  | nil => simp [unassignAll]
  | cons e rest ih =>
    obtain ⟨n, a⟩ := e
    rw [unassignAll] at ih ⊢
    by_cases hn : n ∈ names
    · rw [List.filter_cons_of_neg (by simpa using hn), ih]
      by_cases hname : name ∈ names
      · rw [if_pos hname, if_pos hname]
      · have hne : (name == n) = false := beq_eq_false_iff_ne.mpr fun heq => hname (heq ▸ hn)
        rw [if_neg hname, if_neg hname, List.lookup_cons, hne]
    · rw [List.filter_cons_of_pos (by simpa using hn), List.lookup_cons, List.lookup_cons, ih]
      cases heq : name == n with
      | true =>
        obtain rfl := beq_iff_eq.mp heq
        exact (if_neg hn).symm
      | false => rfl

/-! ### Two lists side by side -/

/-- The lists have the same names in the same order, and what stands under them is related. -/
def Entrywise {β : Type} (R : α → β → Prop) (as : List (String × α)) (bs : List (String × β)) :
    Prop :=
  List.Forall₂ (fun a b => a.1 = b.1 ∧ R a.2 b.2) as bs

namespace Entrywise

variable {β : Type} {R : α → β → Prop} {as : List (String × α)} {bs : List (String × β)}

theorem names_eq (h : Entrywise R as bs) : as.map Prod.fst = bs.map Prod.fst := by
  induction h with
  | nil => rfl
  | cons hab _ ih => rw [List.map_cons, List.map_cons, hab.1, ih]

/-- Lists with the same names are related where the entries at equal places are. -/
theorem of_zip (hnames : as.map Prod.fst = bs.map Prod.fst)
    (h : ∀ p ∈ as.zip bs, R p.1.2 p.2.2) : Entrywise R as bs := by
  induction as generalizing bs with
  | nil =>
    obtain rfl := List.map_eq_nil_iff.mp hnames.symm
    exact .nil
  | cons a as ih =>
    cases bs with
    | nil => cases hnames
    | cons b bs =>
      obtain ⟨hname, hrest⟩ := List.cons.inj hnames
      obtain ⟨hab, hzip⟩ := List.forall_mem_cons.mp h
      exact .cons ⟨hname, hab⟩ (ih hrest hzip)

/-- A name is in both lists or in none. -/
theorem lookup (h : Entrywise R as bs) (name : String) :
    (as.lookup name = none ∧ bs.lookup name = none) ∨
      ∃ a b, as.lookup name = some a ∧ bs.lookup name = some b ∧ R a b := by
  induction h with
  | nil => exact .inl ⟨rfl, rfl⟩
  | @cons a b as bs hab _ ih =>
    obtain ⟨n, x⟩ := a
    obtain ⟨m, y⟩ := b
    obtain ⟨rfl, hxy⟩ := hab
    rw [List.lookup_cons, List.lookup_cons]
    cases name == n with
    | true => exact .inr ⟨x, y, rfl, rfl, hxy⟩
    | false => exact ih

theorem unassign (h : Entrywise R as bs) (name : String) :
    Entrywise R (unassign name as) (unassign name bs) := by
  refine List.rel_filter ?_ h
  intro a b hab
  show (a.1 != name) = true ↔ (b.1 != name) = true
  rw [hab.1]

end Entrywise

end EntityStore
