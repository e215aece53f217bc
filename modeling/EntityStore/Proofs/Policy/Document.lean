import EntityStore.Policy.File
import EntityStore.Proofs.Association
import EntityStore.Proofs.Outcome
import Mathlib.Data.List.Nodup

/-!
# The documents of policies

A policy is read off a document as a whole. If the document has the right shape, the policy excludes
exactly what the document lists as true. If a part of it is malformed, there is no policy.

* `Document.under?` — what stands under a path of names;
* `Document.TextKeyed` — documents whose keys are texts;
* `Document.IsPolicy` — the shape of a document that describes a policy;
* `Policy.exists_ofDocument_iff` — the documents of this shape are those that are accepted;
* `Policy.isExcluded_iff` — the policy of a document.
-/

namespace EntityStore

namespace Document

/-! ### Paths and keys -/

/-- What stands under a path of names. -/
def under? : Document → List String → Option Document
  | d, [] => some d
  | mapping entries, name :: path => (find? name entries).bind fun d => under? d path
  | _, _ :: _ => none

mutual

/-- The keys of all mappings, one below the other, are texts, and none occurs twice in a mapping. -/
def TextKeyed : Document → Prop
  | mapping entries => (entries.map Prod.fst).Nodup ∧ TextKeyedEntries entries
  | atom _ | list _ | pairs _ | set _ | repeated _ => True

/-- The keys of entries are texts, and so are the keys in what stands under them. -/
def TextKeyedEntries : List (Atom × Document) → Prop
  | [] => True
  | (k, d) :: rest => (∃ name, k = .text name) ∧ d.TextKeyed ∧ TextKeyedEntries rest

end

theorem find?_cons_text (name n : String) (d : Document) (rest : List (Atom × Document)) :
    find? name ((.text n, d) :: rest) = if n = name then some d else find? name rest := by
  have hsame : (Atom.text n).same (.text name) = (n == name) := rfl
  rw [find?, List.find?_cons, hsame]
  by_cases h : n = name
  · rw [if_pos h, beq_iff_eq.mpr h]
    rfl
  · rw [if_neg h, beq_eq_false_iff_ne.mpr h]
    rfl

theorem TextKeyedEntries.of_find? {name : String} {d : Document} {entries : List (Atom × Document)}
    (h : TextKeyedEntries entries) (hfound : find? name entries = some d) : d.TextKeyed := by
  induction entries with
  | nil => cases hfound
  | cons e rest ih =>
    obtain ⟨k, d'⟩ := e
    obtain ⟨⟨n, rfl⟩, hd', hrest⟩ := h
    rw [find?_cons_text] at hfound
    by_cases hn : n = name
    · rw [if_pos hn] at hfound
      obtain rfl := Option.some.inj hfound
      exact hd'
    · rw [if_neg hn] at hfound
      exact ih hrest hfound

theorem TextKeyedEntries.of_mem {e : Atom × Document} {entries : List (Atom × Document)}
    (h : TextKeyedEntries entries) (he : e ∈ entries) : e.2.TextKeyed := by
  induction entries with
  | nil => cases he
  | cons first rest ih =>
    rcases List.mem_cons.mp he with rfl | hrest
    · exact h.2.1
    · exact ih h.2.2 hrest

/-! ### Tables -/

section Tables

variable {α : Type} {f : Atom × Document → Outcome (String × α)}
  {entries : List (Atom × Document)} {table : List (String × α)}

/-- Entries that are read one by one keep their names, so no name occurs twice. -/
theorem nodup_of_mapM (hf : ∀ e r, f e = .ok r → r.1 = e.1.label)
    (hkeys : TextKeyedEntries entries) (hnodup : (entries.map Prod.fst).Nodup)
    (h : entries.mapM f = .ok table) : (table.map Prod.fst).Nodup := by
  have hnames : (table.map Prod.fst).map Atom.text = entries.map Prod.fst := by
    have hrows := mapM_eq_ok_iff.mp h
    clear h hnodup
    induction hrows with
    | nil => rfl
    | @cons e r entries table hr _ ih =>
      obtain ⟨⟨name, hname⟩, -, hrest⟩ := hkeys
      have hr1 : r.1 = name := by
        rw [hf e r hr, hname]
        rfl
      rw [List.map_cons, List.map_cons, List.map_cons, ih hrest, hr1, ← hname]
  rw [← hnames] at hnodup
  exact List.Nodup.of_map Atom.text hnodup

/-- A name is found among the entries or nowhere, and what stands under it has been read. -/
theorem lookup_of_mapM (hf : ∀ e r, f e = .ok r → r.1 = e.1.label)
    (hkeys : TextKeyedEntries entries) (h : entries.mapM f = .ok table) (name : String) :
    (find? name entries = none ∧ table.lookup name = none) ∨
      ∃ d a, find? name entries = some d ∧ table.lookup name = some a ∧
        f (.text name, d) = .ok (name, a) := by
  have hrows := mapM_eq_ok_iff.mp h
  clear h
  induction hrows with
  | nil => exact .inl ⟨rfl, rfl⟩
  | @cons e r entries table hr _ ih =>
    obtain ⟨k, d⟩ := e
    obtain ⟨n', a⟩ := r
    obtain ⟨⟨n, rfl⟩, -, hrest⟩ := hkeys
    obtain rfl : n' = n := hf _ _ hr
    rw [find?_cons_text, List.lookup_cons]
    by_cases hn : n' = name
    · subst hn
      rw [if_pos rfl, beq_self_eq_true]
      exact .inr ⟨d, a, rfl, rfl, hr⟩
    · rw [if_neg hn, beq_eq_false_iff_ne.mpr (Ne.symm hn)]
      exact ih hrest

end Tables

/-! ### Shapes -/

/-- The entries of the table under a name. Where nothing stands under it, or data that does not
count as true, the table is empty; other data is no table. -/
def tableUnder? (name : String) (parts : List (Atom × Document)) :
    Option (List (Atom × Document)) :=
  match find? name parts with
  | none => some []
  | some (mapping entries) => some entries
  | some d => if d.isTruthy then none else some []

/-- A mapping that has no other key than a name, with a table under it that holds data of one
shape. -/
def IsFrame (name : String) (P : Document → Prop) (d : Document) : Prop :=
  ∃ parts entries, d = mapping parts ∧ hasOnly name parts = true ∧
    tableUnder? name parts = some entries ∧ ∀ e ∈ entries, P e.2

/-- A truth value. -/
def IsFlag (d : Document) : Prop := ∃ b, d = atom (.boolean b)

/-- The properties of a kind, each with a flag. -/
def IsKindEntry : Document → Prop := IsFrame "property" IsFlag

/-- A document that describes a policy: nothing at all, or kinds with their properties. -/
def IsPolicy (d : Document) : Prop := d = atom .null ∨ IsFrame "kind" IsKindEntry d

/-- A table is a mapping, or it is empty because no mapping stands under the name. -/
theorem tableUnder?_cases {name : String} {parts entries : List (Atom × Document)}
    (h : tableUnder? name parts = some entries) :
    find? name parts = some (mapping entries) ∨
      entries = [] ∧ ∀ d, find? name parts = some d → ∀ es, d ≠ mapping es := by
  unfold tableUnder? at h
  split at h
  next hnone =>
    refine .inr ⟨(Option.some.inj h).symm, ?_⟩
    intro d hd
    cases hnone.symm.trans hd
  next es hfound =>
    obtain rfl := Option.some.inj h
    exact .inl hfound
  next d hno hfound =>
    by_cases htruthy : d.isTruthy = true
    · rw [if_pos htruthy] at h
      cases h
    · rw [if_neg htruthy] at h
      refine .inr ⟨(Option.some.inj h).symm, ?_⟩
      intro d' hd' es hmapping
      obtain rfl := Option.some.inj (hfound.symm.trans hd')
      exact hno es hmapping

/-- What stands in the table under a name. -/
theorem under?_mapping {name : String} {parts entries : List (Atom × Document)}
    (h : tableUnder? name parts = some entries) (n : String) (path : List String) :
    (mapping parts).under? (name :: n :: path) =
      (find? n entries).bind fun d => d.under? path := by
  rw [under?]
  rcases tableUnder?_cases h with hfound | ⟨rfl, hno⟩
  · rw [hfound]
    rfl
  · cases hfound : find? name parts with
    | none => rfl
    | some d =>
      cases d with
      | mapping es => exact absurd rfl (hno _ hfound es)
      | _ => rfl

theorem TextKeyedEntries.table {name : String} {parts entries : List (Atom × Document)}
    (h : TextKeyedEntries parts) (htable : tableUnder? name parts = some entries) :
    (entries.map Prod.fst).Nodup ∧ TextKeyedEntries entries := by
  rcases tableUnder?_cases htable with hfound | ⟨rfl, -⟩
  · exact h.of_find? hfound
  · exact ⟨List.nodup_nil, trivial⟩

end Document

namespace Policy

open Document

/-! ### What is read -/

theorem entriesOrNone_find? (name : String) (parts : List (Atom × Document)) :
    entriesOrNone (find? name parts) =
      (tableUnder? name parts).elim (.error .missingAttribute) .ok := by
  unfold entriesOrNone tableUnder?
  cases find? name parts with
  | none => rfl
  | some d =>
    cases d with
    | mapping entries => cases entries <;> rfl
    | atom _ | list _ | pairs _ | set _ | repeated _ =>
      dsimp only
      split <;> rfl

theorem readFlag_eq_ok {kind : String} {e : Atom × Document} {r : String × Bool} :
    readFlag kind e = .ok r ↔ r.1 = e.1.label ∧ e.2 = .atom (.boolean r.2) := by
  obtain ⟨k, d⟩ := e
  obtain ⟨name, b⟩ := r
  constructor
  · intro h
    unfold readFlag at h
    split at h
    next b' hd =>
      cases h
      exact ⟨rfl, hd⟩
    next => cases h
  · rintro ⟨hname, hflag⟩
    obtain rfl : name = k.label := hname
    obtain rfl : d = .atom (.boolean b) := hflag
    rfl

/-- The entry of a kind is read as a whole, or it is refused. -/
theorem readKind_mapping (k : Atom) (parts : List (Atom × Document)) :
    readKind (k, .mapping parts) =
      if hasOnly "property" parts then
        (tableUnder? "property" parts).elim (refuse (.properties k.label)) fun flags =>
          (flags.mapM (readFlag k.label)).map (k.label, ·)
      else refuse (.kindEntry k.label) := by
  cases honly : hasOnly "property" parts with
  | false =>
    simp only [readKind, honly, Bool.not_false, if_true, Bool.false_eq_true, if_false]
    rfl
  | true =>
    simp only [readKind, tableUnder?, honly, Bool.not_true, Bool.false_eq_true, if_false, if_true]
    cases find? "property" parts with
    | none => rfl
    | some d =>
      cases d with
      | mapping flags => exact bind_pure_eq_map
      | atom _ | list _ | pairs _ | set _ | repeated _ =>
        dsimp only
        split <;> rfl

/-- What is read off the entry of a kind: its name, and the flags in its table. -/
theorem readKind_eq_ok {e : Atom × Document} {r : String × List (String × Bool)}
    (h : readKind e = .ok r) :
    r.1 = e.1.label ∧ ∃ parts flags, e.2 = .mapping parts ∧
      hasOnly "property" parts = true ∧ tableUnder? "property" parts = some flags ∧
      flags.mapM (readFlag e.1.label) = .ok r.2 := by
  obtain ⟨k, d⟩ := e
  cases d with
  | mapping parts =>
    rw [readKind_mapping] at h
    cases honly : hasOnly "property" parts with
    | false =>
      rw [honly] at h
      cases h
    | true =>
      rw [honly, if_pos rfl] at h
      cases htable : tableUnder? "property" parts with
      | none =>
        rw [htable] at h
        cases h
      | some flags =>
        rw [htable] at h
        obtain ⟨read, hread, rfl⟩ := map_eq_ok h
        exact ⟨rfl, parts, flags, rfl, honly, htable, hread⟩
  | atom _ | list _ | pairs _ | set _ | repeated _ => cases h

/-- A document is read as a whole, or it is refused. -/
theorem ofDocument_mapping (parts : List (Atom × Document)) :
    ofDocument (.mapping parts) =
      if hasOnly "kind" parts then
        (tableUnder? "kind" parts).elim (.error .missingAttribute) fun kinds =>
          (kinds.mapM readKind).map ofKinds
      else refuse .document := by
  simp only [ofDocument, entriesOrNone_find?]
  cases tableUnder? "kind" parts with
  | none => rfl
  | some kinds =>
    have hread : (kinds.mapM readKind >>= fun tables => pure (ofKinds tables)) =
        (kinds.mapM readKind).map ofKinds := bind_pure_eq_map
    show (if hasOnly "kind" parts = true then
      kinds.mapM readKind >>= fun tables => pure (ofKinds tables) else refuse .document) = _
    rw [hread]
    rfl

/-- What is read off a document: the kinds in its table. -/
theorem ofDocument_eq_ok {d : Document} {p : Policy} (h : ofDocument d = .ok p) :
    d = .atom .null ∧ p = .empty ∨
      ∃ parts kinds tables, d = .mapping parts ∧ hasOnly "kind" parts = true ∧
        tableUnder? "kind" parts = some kinds ∧ kinds.mapM readKind = .ok tables ∧
        p = ofKinds tables := by
  cases d with
  | mapping parts =>
    rw [ofDocument_mapping] at h
    cases honly : hasOnly "kind" parts with
    | false =>
      rw [honly] at h
      cases h
    | true =>
      rw [honly, if_pos rfl] at h
      cases htable : tableUnder? "kind" parts with
      | none =>
        rw [htable] at h
        cases h
      | some kinds =>
        rw [htable] at h
        obtain ⟨tables, htables, rfl⟩ := map_eq_ok h
        exact .inr ⟨parts, kinds, tables, rfl, honly, htable, htables, rfl⟩
  | atom a =>
    cases a with
    | null => exact .inl ⟨rfl, (Except.ok.inj h).symm⟩
    | _ => cases h
  | list _ | pairs _ | set _ | repeated _ => cases h

/-! ### Which documents are accepted -/

theorem exists_readFlag_iff (kind : String) (e : Atom × Document) :
    (∃ r, readFlag kind e = .ok r) ↔ IsFlag e.2 := by
  constructor
  · rintro ⟨r, hr⟩
    exact ⟨r.2, (readFlag_eq_ok.mp hr).2⟩
  · rintro ⟨b, hb⟩
    exact ⟨(e.1.label, b), readFlag_eq_ok.mpr ⟨rfl, hb⟩⟩

theorem exists_readKind_iff (e : Atom × Document) :
    (∃ r, readKind e = .ok r) ↔ IsKindEntry e.2 := by
  obtain ⟨k, d⟩ := e
  constructor
  · rintro ⟨r, hr⟩
    obtain ⟨-, parts, flags, hparts, honly, htable, hread⟩ := readKind_eq_ok hr
    refine ⟨parts, flags, hparts, honly, htable, ?_⟩
    intro f hf
    exact (exists_readFlag_iff k.label f).mp (exists_mapM_iff.mp ⟨_, hread⟩ f hf)
  · rintro ⟨parts, flags, hparts, honly, htable, hflags⟩
    obtain rfl : d = .mapping parts := hparts
    obtain ⟨read, hread⟩ := exists_mapM_iff.mpr fun f hf =>
      (exists_readFlag_iff k.label f).mpr (hflags f hf)
    refine ⟨(k.label, read), ?_⟩
    rw [readKind_mapping, honly, if_pos rfl, htable]
    show (flags.mapM (readFlag k.label)).map (k.label, ·) = _
    rw [hread]
    rfl

/-- **The documents that are accepted.** A document with a malformed part has no policy at all. -/
theorem exists_ofDocument_iff (d : Document) : (∃ p, ofDocument d = .ok p) ↔ d.IsPolicy := by
  constructor
  · rintro ⟨p, hp⟩
    rcases ofDocument_eq_ok hp with ⟨hnull, -⟩ |
      ⟨parts, kinds, tables, hparts, honly, htable, htables, -⟩
    · exact .inl hnull
    · refine .inr ⟨parts, kinds, hparts, honly, htable, ?_⟩
      intro e he
      exact (exists_readKind_iff e).mp (exists_mapM_iff.mp ⟨tables, htables⟩ e he)
  · rintro (rfl | ⟨parts, kinds, rfl, honly, htable, hkinds⟩)
    · exact ⟨.empty, rfl⟩
    · obtain ⟨tables, htables⟩ := exists_mapM_iff.mpr fun e he =>
        (exists_readKind_iff e).mpr (hkinds e he)
      refine ⟨ofKinds tables, ?_⟩
      rw [ofDocument_mapping, honly, if_pos rfl, htable]
      show (kinds.mapM readKind).map ofKinds = _
      rw [htables]
      rfl

/-! ### What a policy excludes -/

/-- Tables without repeated names are kept as they are. -/
theorem ofKinds_of_nodup {tables : List (String × List (String × Bool))}
    (hkinds : (tables.map Prod.fst).Nodup) (hflags : ∀ t ∈ tables, (t.2.map Prod.fst).Nodup) :
    ofKinds tables = ⟨tables⟩ := by
  have hrows : tables.map (fun k => (k.1, assignAll k.2)) = tables := by
    refine (List.map_congr_left fun t ht => ?_).trans (List.map_id tables)
    rw [assignAll_of_nodup (hflags t ht)]
    rfl
  rw [ofKinds, hrows, assignAll_of_nodup hkinds]

/-- The flags of a kind are those that its entry lists. -/
theorem lookup_readKind {e : Atom × Document} {r : String × List (String × Bool)}
    (h : readKind e = .ok r) (hkeys : e.2.TextKeyed) :
    (r.2.map Prod.fst).Nodup ∧ ∀ name,
      r.2.lookup name = some true ↔
        e.2.under? ["property", name] = some (.atom (.boolean true)) := by
  obtain ⟨-, parts, flags, hparts, -, htable, hread⟩ := readKind_eq_ok h
  rw [hparts] at hkeys ⊢
  obtain ⟨hnodup, hflagKeys⟩ := hkeys.2.table htable
  have hname (f : Atom × Document) (b : String × Bool) (hb : readFlag e.1.label f = .ok b) :
      b.1 = f.1.label := (readFlag_eq_ok.mp hb).1
  refine ⟨nodup_of_mapM hname hflagKeys hnodup hread, ?_⟩
  intro name
  rw [under?_mapping htable]
  rcases lookup_of_mapM hname hflagKeys hread name with ⟨hnone, hlookup⟩ |
    ⟨d, b, hfound, hlookup, hflag⟩
  · rw [hnone, hlookup]
    exact ⟨nofun, nofun⟩
  · rw [hfound, hlookup]
    have hd : d = .atom (.boolean b) := (readFlag_eq_ok.mp hflag).2
    subst hd
    cases b with
    | false => exact ⟨nofun, nofun⟩
    | true => exact ⟨fun _ => rfl, fun _ => rfl⟩

/-- **A policy excludes what its document lists as true**, and nothing else. -/
theorem isExcluded_iff {d : Document} {p : Policy} (hkeys : d.TextKeyed)
    (h : ofDocument d = .ok p) (kind name : String) :
    p.isExcluded kind name = true ↔
      d.under? ["kind", kind, "property", name] = some (.atom (.boolean true)) := by
  rcases ofDocument_eq_ok h with ⟨rfl, rfl⟩ |
    ⟨parts, kinds, tables, rfl, -, htable, htables, rfl⟩
  · exact ⟨nofun, nofun⟩
  · obtain ⟨hnodup, hkindKeys⟩ := hkeys.2.table htable
    have hname (e : Atom × Document) (r : String × List (String × Bool))
        (hr : readKind e = .ok r) : r.1 = e.1.label := (readKind_eq_ok hr).1
    have hflags (t : String × List (String × Bool)) (ht : t ∈ tables) :
        (t.2.map Prod.fst).Nodup := by
      obtain ⟨e, he, hread⟩ := (mem_of_mapM htables).mp ht
      exact (lookup_readKind hread (hkindKeys.of_mem he)).1
    rw [ofKinds_of_nodup (nodup_of_mapM hname hkindKeys hnodup htables) hflags,
      under?_mapping htable]
    show (((tables.lookup kind).getD []).lookup name).getD false = true ↔ _
    rcases lookup_of_mapM hname hkindKeys htables kind with ⟨hnone, hlookup⟩ |
      ⟨entry, read, hfound, hlookup, hread⟩
    · rw [hnone, hlookup]
      exact ⟨nofun, nofun⟩
    · have hlisted := (lookup_readKind hread (hkindKeys.of_find? hfound)).2 name
      rw [hfound, hlookup]
      show (read.lookup name).getD false = true ↔
        entry.under? ["property", name] = some (.atom (.boolean true))
      rw [← hlisted]
      cases read.lookup name with
      | none => exact ⟨nofun, nofun⟩
      | some b => exact ⟨congrArg some, Option.some.inj⟩

end Policy

end EntityStore
