import EntityStore.Proofs.Policy.Document

/-!
# Loading a policy

A file that holds no policy counts as an empty one, so loading is to succeed whatever it finds. It
does, but for files whose text cannot be decoded, scalars that the reader of documents takes for
impossible data, and documents in which something other than a mapping stands for the kinds.

* `Document.HasLooseKinds` — the malformed documents that are not refused as such;
* `Policy.ofDocument_eq_error` — the errors of all other malformed documents are refusals;
* `File.Holds`, `File.IsFatal` — what a file holds, and files that are not passed over;
* `Policy.loads_unless_fatal` — which files are loaded, and as which policy.
-/

namespace EntityStore

/-- Kinds are all that the document may hold, but they are no table. -/
def Document.HasLooseKinds (d : Document) : Prop :=
  ∃ parts, d = .mapping parts ∧ hasOnly "kind" parts = true ∧ tableUnder? "kind" parts = none

namespace Policy

open Document

/-! ### Refusals -/

theorem ofDocument_of_hasLooseKinds {d : Document} (h : d.HasLooseKinds) :
    ofDocument d = .error .missingAttribute := by
  obtain ⟨parts, rfl, honly, htable⟩ := h
  rw [ofDocument_mapping, honly, if_pos rfl, htable]
  rfl

theorem readFlag_eq_error {kind : String} {f : Atom × Document} {e : Error}
    (h : readFlag kind f = .error e) : ∃ fault, e = .value (.policy fault) := by
  unfold readFlag at h
  split at h
  · cases h
  · exact ⟨_, (Except.error.inj h).symm⟩

theorem readKind_eq_error {k : Atom × Document} {e : Error} (h : readKind k = .error e) :
    ∃ fault, e = .value (.policy fault) := by
  obtain ⟨k, d⟩ := k
  cases d with
  | mapping parts =>
    rw [readKind_mapping] at h
    cases honly : hasOnly "property" parts with
    | false =>
      rw [honly] at h
      exact ⟨_, (Except.error.inj h).symm⟩
    | true =>
      rw [honly, if_pos rfl] at h
      cases htable : tableUnder? "property" parts with
      | none =>
        rw [htable] at h
        exact ⟨_, (Except.error.inj h).symm⟩
      | some flags =>
        rw [htable] at h
        obtain ⟨f, -, hf⟩ := exists_of_mapM_error (map_eq_error h)
        exact readFlag_eq_error hf
  | atom _ | list _ | pairs _ | set _ | repeated _ => exact ⟨_, (Except.error.inj h).symm⟩

/-- **A malformed document is refused**, unless its kinds are no table: this fails otherwise. -/
theorem ofDocument_eq_error {d : Document} {e : Error} (h : ofDocument d = .error e) :
    d.HasLooseKinds ∧ e = .missingAttribute ∨
      ¬ d.HasLooseKinds ∧ ∃ fault, e = .value (.policy fault) := by
  cases d with
  | mapping parts =>
    rw [ofDocument_mapping] at h
    cases honly : hasOnly "kind" parts with
    | false =>
      rw [honly] at h
      refine .inr ⟨?_, _, (Except.error.inj h).symm⟩
      rintro ⟨parts', hparts, honly', -⟩
      obtain rfl := Document.mapping.inj hparts
      cases honly.symm.trans honly'
    | true =>
      rw [honly, if_pos rfl] at h
      cases htable : tableUnder? "kind" parts with
      | none =>
        rw [htable] at h
        exact .inl ⟨⟨parts, rfl, honly, htable⟩, (Except.error.inj h).symm⟩
      | some kinds =>
        rw [htable] at h
        obtain ⟨k, -, hk⟩ := exists_of_mapM_error (map_eq_error h)
        refine .inr ⟨?_, readKind_eq_error hk⟩
        rintro ⟨parts', hparts, -, htable'⟩
        obtain rfl := Document.mapping.inj hparts
        cases htable.symm.trans htable'
  | atom a =>
    refine .inr ⟨?_, ?_⟩
    · rintro ⟨parts, hparts, -⟩
      cases hparts
    · cases a with
      | null => cases h
      | _ => exact ⟨_, (Except.error.inj h).symm⟩
  | list _ | pairs _ | set _ | repeated _ =>
    refine .inr ⟨?_, _, (Except.error.inj h).symm⟩
    rintro ⟨parts, hparts, -⟩
    cases hparts

end Policy

/-! ### Files -/

namespace File

/-- The file can be read, and its text is that of a document. -/
def Holds (f : File) (d : Document) : Prop :=
  ∃ bytes, f = .content bytes ∧ Document.ofBytes bytes = .ok d

/-- The files that are not passed over, though they hold no policy. -/
inductive IsFatal : File → Prop
  | undecodable (bytes : Bytes) (h : String.fromUTF8? ⟨bytes.toArray⟩ = none) :
      IsFatal (.content bytes)
  | meaningless (bytes : Bytes) (text : String) (e : Error)
      (h : String.fromUTF8? ⟨bytes.toArray⟩ = some text)
      (hread : Document.ofText (Document.unifyLines text.toList) = .error (.meaningless e)) :
      IsFatal (.content bytes)
  | looseKinds (bytes : Bytes) (d : Document) (h : Document.ofBytes bytes = .ok d)
      (hloose : d.HasLooseKinds) : IsFatal (.content bytes)

/-- The reader of documents fails for good on a text that is none, or on impossible data. -/
theorem isFatal_of_meaningless {bytes : Bytes} {e : Error}
    (h : Document.ofBytes bytes = .error (.meaningless e)) : IsFatal (.content bytes) := by
  unfold Document.ofBytes at h
  split at h
  next text htext => exact .meaningless bytes text e htext h
  next htext => exact .undecodable bytes htext

/-- What is read from a file that is fatal. -/
theorem IsFatal.cases_ofBytes {bytes : Bytes} (h : IsFatal (.content bytes)) :
    (∃ e, Document.ofBytes bytes = .error (.meaningless e)) ∨
      ∃ d, Document.ofBytes bytes = .ok d ∧ d.HasLooseKinds := by
  cases h with
  | undecodable _ h =>
    refine .inl ⟨.undecodableText, ?_⟩
    rw [Document.ofBytes, h]
  | meaningless _ text e h hread =>
    refine .inl ⟨e, ?_⟩
    rw [Document.ofBytes, h]
    exact hread
  | looseKinds _ d h hloose => exact .inr ⟨d, h, hloose⟩

end File

namespace Policy

open Document

/-- The three things that can come of a file: the policy that it holds, the empty policy with a
warning, or a failure if it is fatal. -/
theorem ofFile_cases (f : File) :
    (∃ d p, f.Holds d ∧ ofDocument d = .ok p ∧ ¬ f.IsFatal ∧ ofFile f = .ok (p, [])) ∨
      (∀ d, f.Holds d → ¬ d.IsPolicy) ∧
        (¬ f.IsFatal ∧ (∃ w, ofFile f = .ok (empty, [w])) ∨
          f.IsFatal ∧ ∃ e, ofFile f = .error e) := by
  cases f with
  | unreadable =>
    refine .inr ⟨?_, .inl ⟨nofun, .unreadable, rfl⟩⟩
    rintro d ⟨bytes, hbytes, -⟩
    cases hbytes
  | content bytes =>
    cases hread : Document.ofBytes bytes with
    | error fault =>
      have hnone (d : Document) (hd : (File.content bytes).Holds d) : ¬ d.IsPolicy := by
        obtain ⟨bytes', hbytes, hd⟩ := hd
        obtain rfl := File.content.inj hbytes
        cases hread.symm.trans hd
      refine .inr ⟨hnone, ?_⟩
      cases fault with
      | malformed =>
        refine .inl ⟨?_, .notYaml, ?_⟩
        · intro hfatal
          rcases hfatal.cases_ofBytes with ⟨e, he⟩ | ⟨d, hd, -⟩
          · cases hread.symm.trans he
          · cases hread.symm.trans hd
        · simp only [ofFile, hread]
      | meaningless e =>
        refine .inr ⟨File.isFatal_of_meaningless hread, e, ?_⟩
        simp only [ofFile, hread]
    | ok d =>
      have hholds (d' : Document) (hd' : (File.content bytes).Holds d') : d' = d := by
        obtain ⟨bytes', hbytes, hd'⟩ := hd'
        obtain rfl := File.content.inj hbytes
        exact Except.ok.inj (hd'.symm.trans hread)
      have hfatal : (File.content bytes).IsFatal ↔ d.HasLooseKinds := by
        constructor
        · intro h
          rcases h.cases_ofBytes with ⟨e, he⟩ | ⟨d', hd', hloose⟩
          · cases hread.symm.trans he
          · obtain rfl := Except.ok.inj (hread.symm.trans hd')
            exact hloose
        · exact .looseKinds bytes d hread
      cases hp : ofDocument d with
      | ok p =>
        refine .inl ⟨d, p, ⟨bytes, rfl, hread⟩, hp, ?_, ?_⟩
        · rw [hfatal]
          intro hloose
          cases (ofDocument_of_hasLooseKinds hloose).symm.trans hp
        · simp only [ofFile, hread, hp]
      | error e =>
        refine .inr ⟨?_, ?_⟩
        · intro d' hd' hpolicy
          rw [hholds d' hd'] at hpolicy
          obtain ⟨p, hok⟩ := (exists_ofDocument_iff d).mpr hpolicy
          cases hp.symm.trans hok
        · rcases ofDocument_eq_error hp with ⟨hloose, rfl⟩ | ⟨hrefused, fault, rfl⟩
          · refine .inr ⟨hfatal.mpr hloose, .missingAttribute, ?_⟩
            simp only [ofFile, hread, hp]
          · refine .inl ⟨fun h => hrefused (hfatal.mp h), .ignored fault, ?_⟩
            simp only [ofFile, hread, hp]

/-- What comes of loading a policy from a file, if there is one to be loaded. It returns unless the
file is fatal. It returns the policy that the file describes, or else the empty one. -/
structure LoadsAs (source : Option File) (r : Outcome (Policy × List Warning)) : Prop where
  returns : (∃ a, r = .ok a) ↔ ∀ f ∈ source, ¬ f.IsFatal
  policy : ∀ p ws, r = .ok (p, ws) →
    (∃ f ∈ source, ∃ d, f.Holds d ∧ d.IsPolicy ∧ ofDocument d = .ok p) ∨
      (∀ f ∈ source, ∀ d, f.Holds d → ¬ d.IsPolicy) ∧ p = .empty

theorem loadsAs_ofFile (f : File) : LoadsAs (some f) (ofFile f) := by
  have hreturns {r : Policy × List Warning} (hr : ofFile f = .ok r) (hfatal : ¬ f.IsFatal) :
      (∃ a, ofFile f = .ok a) ↔ ∀ f' ∈ some f, ¬ f'.IsFatal := by
    refine ⟨fun _ => ?_, fun _ => ⟨r, hr⟩⟩
    intro f' hf'
    obtain rfl := Option.some.inj hf'
    exact hfatal
  rcases ofFile_cases f with ⟨d, p, hd, hp, hfatal, hr⟩ |
    ⟨hnone, ⟨hfatal, w, hr⟩ | ⟨hfatal, e, hr⟩⟩
  · refine ⟨hreturns hr hfatal, ?_⟩
    intro p' ws hp'
    cases hr.symm.trans hp'
    exact .inl ⟨f, rfl, d, hd, (exists_ofDocument_iff d).mp ⟨p, hp⟩, hp⟩
  · refine ⟨hreturns hr hfatal, ?_⟩
    intro p' ws hp'
    cases hr.symm.trans hp'
    refine .inr ⟨?_, rfl⟩
    intro f' hf'
    obtain rfl := Option.some.inj hf'
    exact hnone
  · refine ⟨?_, ?_⟩
    · constructor
      · rintro ⟨a, ha⟩
        cases hr.symm.trans ha
      · intro h
        exact absurd hfatal (h f rfl)
    · intro p' ws hp'
      cases hr.symm.trans hp'

theorem loadsAs_ofEnvironment (env : Environment) (files : Files) (name : String) :
    LoadsAs ((env.nonempty? name).map files) (ofEnvironment env files name) := by
  unfold ofEnvironment
  cases env.nonempty? name with
  | none =>
    refine ⟨⟨fun _ => nofun, fun _ => ⟨_, rfl⟩⟩, ?_⟩
    intro p ws hp
    cases hp
    exact .inr ⟨nofun, rfl⟩
  | some path => exact loadsAs_ofFile (files path)

/-- **Which files are loaded.** Whatever stands at a path, and whether it can be read or not, loading
returns unless the file is fatal. A file that is no document, or whose document is not of the shape
that describes a policy, is loaded as the empty policy. The same holds of the file that a variable
names; without one, the policy is empty. -/
theorem loads_unless_fatal (files : Files) (path : String) (env : Environment) (name : String) :
    LoadsAs (some (files path)) (ofFile (files path)) ∧
      LoadsAs ((env.nonempty? name).map files) (ofEnvironment env files name) :=
  ⟨loadsAs_ofFile (files path), loadsAs_ofEnvironment env files name⟩

/-- Nothing can be read at any path but one, where there is no text. -/
def undecodableAt (path : String) : Files := fun p =>
  if p = path then .content [0xff] else .unreadable

/-- A file that cannot be read is passed over, and one that is no text is not. -/
theorem loads_unless_fatal_undecodable :
    (∃ r, ofFile (undecodableAt "a" "b") = .ok r) ∧
      ¬ ∃ r, ofEnvironment [("INDEX_EXCLUDED", "a")] (undecodableAt "a") "INDEX_EXCLUDED" =
        .ok r := by
  obtain ⟨hmissing, hundecodable⟩ :=
    loads_unless_fatal (undecodableAt "a") "b" [("INDEX_EXCLUDED", "a")] "INDEX_EXCLUDED"
  constructor
  · refine hmissing.returns.mpr ?_
    intro f hf hfatal
    obtain rfl : undecodableAt "a" "b" = f := Option.some.inj hf
    cases hfatal
  · intro hreturns
    exact hundecodable.returns.mp hreturns (undecodableAt "a" "a") rfl (.undecodable [0xff] rfl)

/-- The bytes of a document that has a number for its kinds. -/
def numberedKinds : Bytes := [0x6b, 0x69, 0x6e, 0x64, 0x3a, 0x20, 0x31]

/-- Not every file is passed over: neither is one that is no text, nor one that is a document of the
wrong shape. -/
theorem not_loads :
    (¬ ∃ r, ofFile (.content [0xff]) = .ok r) ∧ ¬ ∃ r, ofFile (.content numberedKinds) = .ok r := by
  have hfails {f : File} (h : (ofFile f).isOk = false) : ¬ ∃ r, ofFile f = .ok r := by
    rintro ⟨r, hr⟩
    rw [hr] at h
    cases h
  exact ⟨hfails (by decide +kernel), hfails (by decide +kernel)⟩

end Policy

end EntityStore
