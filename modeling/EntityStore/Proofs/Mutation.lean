import EntityStore.Mutation
import EntityStore.Proofs.Outcome
import Mathlib.Data.List.Basic

/-!
# Kinds and results of mutations

A write in a transaction differs from any other only by the mark for deletion. A commit answers with
a result for each mutation, of which those for deletions are passed over.

* `Mutation.put_transactional`, `Mutation.put_outside` — the mutation of a write;
* `Mutation.writePlaces` — the places of the mutations that are no deletions;
* `Mutation.keys_eq` — the keys of a commit are those of the results at these places;
* `Wire.CommitResponse.Fits`, `Mutation.exists_keys_iff` — the answers that are understood.
-/

namespace EntityStore

namespace Mutation

/-! ### Kinds of writes -/

/-- A write in a transaction is a deletion if the key is marked for it, and else the write that is
made outside of one. -/
theorem put_transactional (project : String) (policy : Policy) (e : Entity) :
    put project policy true e =
      if e.key.isDeleted then .ok (delete project e.key) else put project policy false e := by
  cases h : e.key.isDeleted <;> simp [put, MutationKind.ofKey, h]

/-- A write outside of a transaction inserts where the key is new or incomplete, and is never a
deletion. -/
theorem put_outside (project : String) (policy : Policy) (e : Entity) :
    put project policy false e = (e.encode project policy).map fun m =>
      if e.key.isNew || e.key.isIncomplete then ⟨.insert, .insert m⟩ else ⟨.upsert, .upsert m⟩ := by
  cases h : e.key.isNew || e.key.isIncomplete <;> simp [put, MutationKind.ofKey, h]

/-! ### Results -/

/-- The places of the mutations that are no deletions. -/
def writePlaces (kinds : List MutationKind) : List Nat :=
  (List.range kinds.length).filter fun i => kinds[i]? != some .delete

theorem writePlaces_cons (kind : MutationKind) (kinds : List MutationKind) :
    writePlaces (kind :: kinds) =
      (if kind = .delete then [] else [0]) ++ (writePlaces kinds).map (· + 1) := by
  rw [writePlaces, List.length_cons, List.range_succ_eq_map, List.filter_cons, List.filter_map]
  have hrest : (fun i => (kind :: kinds)[i]? != some MutationKind.delete) ∘ Nat.succ =
      fun i => kinds[i]? != some .delete := rfl
  rw [hrest]
  by_cases h : kind = .delete <;> simp [writePlaces, h]

/-- Where nothing is deleted, every place is that of a write. -/
theorem writePlaces_of_writes {kinds : List MutationKind}
    (h : ∀ kind ∈ kinds, kind ≠ .delete) :
    writePlaces kinds = List.range kinds.length := by
  refine List.filter_eq_self.mpr fun i hi => ?_
  rw [List.getElem?_eq_getElem (List.mem_range.mp hi)]
  simpa using h _ (List.getElem_mem _)

end Mutation

namespace Wire.CommitResponse

variable (r : CommitResponse)

/-- The key of the result at a place, if it has one. -/
def keyAt (i : Nat) : Outcome (Option EntityStore.Key) :=
  match r.results[i]?.join with
  | none => .ok none
  | some k => k.decode.map some

/-- The response has a result for each mutation, and the keys of those that are for no deletion are
read. -/
def Fits (kinds : List MutationKind) : Prop :=
  r.results.length = kinds.length ∧
    ∀ i ∈ Mutation.writePlaces kinds, ∀ k, r.results[i]? = some (some k) → ∃ key, k.decode = .ok key

end Wire.CommitResponse

namespace Mutation

/-- **Each write takes the key of the result at its own place.** The induction goes through
mutations and results side by side; what is behind the first ones lies one place further. -/
theorem resultKeys_eq_mapM (results : List (Option Wire.Key)) (kinds : List MutationKind)
    (h : results.length = kinds.length) :
    resultKeys results kinds = (writePlaces kinds).mapM (Wire.CommitResponse.mk results).keyAt := by
  induction kinds generalizing results with
  | nil => cases results <;> rfl
  | cons kind kinds ih =>
    cases results with
    | nil => cases h
    | cons result results =>
      have hrest : ((writePlaces kinds).map (· + 1)).mapM
          (Wire.CommitResponse.mk (result :: results)).keyAt = resultKeys results kinds := by
        rw [ih results (Nat.succ.inj h), List.mapM_map]
        rfl
      -- a write has the result at the place 0, and the rest one place further
      have hwrite (hkind : kind ≠ .delete) : (writePlaces (kind :: kinds)).mapM
          (Wire.CommitResponse.mk (result :: results)).keyAt =
            ((Wire.CommitResponse.mk (result :: results)).keyAt 0).bind fun k =>
              (resultKeys results kinds).map (k :: ·) := by
        rw [writePlaces_cons, if_neg hkind, List.singleton_append, List.mapM_cons, hrest]
        cases (Wire.CommitResponse.mk (result :: results)).keyAt 0 with
        | error e => rfl
        | ok k => cases resultKeys results kinds <;> rfl
      cases kind with
      | delete =>
        rw [writePlaces_cons, if_pos rfl, List.nil_append, hrest]
        cases result <;> rfl
      | insert | upsert =>
        rw [hwrite nofun]
        cases result with
        | none => rfl
        | some k =>
          show _ = (k.decode.map some).bind _
          simp only [resultKeys]
          cases k.decode <;> rfl

/-- The keys that a commit hands back, by the places of its writes. -/
theorem keys_eq (r : Wire.CommitResponse) (kinds : List MutationKind) :
    keys r kinds =
      if r.results.length = kinds.length then (writePlaces kinds).mapM r.keyAt
      else .error (.decode (.resultCount r.results.length kinds.length)) := by
  unfold keys
  by_cases h : r.results.length = kinds.length
  · rw [if_pos (beq_iff_eq.mpr h), if_pos h, resultKeys_eq_mapM r.results kinds h]
  · rw [if_neg (by simpa using h), if_neg h]

theorem exists_keyAt_iff (r : Wire.CommitResponse) (i : Nat) :
    (∃ k, r.keyAt i = .ok k) ↔
      ∀ k, r.results[i]? = some (some k) → ∃ key, k.decode = .ok key := by
  unfold Wire.CommitResponse.keyAt
  cases hresult : r.results[i]?.join with
  | none =>
    refine ⟨fun _ k hk => ?_, fun _ => ⟨none, rfl⟩⟩
    rw [hk] at hresult
    cases hresult
  | some w =>
    have hw := Option.join_eq_some_iff.mp hresult
    constructor
    · rintro ⟨k, hk⟩ w' hw'
      obtain rfl := Option.some.inj (Option.some.inj (hw.symm.trans hw'))
      obtain ⟨key, hkey, _⟩ := map_eq_ok hk
      exact ⟨key, hkey⟩
    · intro hread
      obtain ⟨key, hkey⟩ := hread w hw
      exact ⟨some key, congrArg (Except.map some) hkey⟩

/-- **An answer is understood exactly if it fits the mutations.** -/
theorem exists_keys_iff (r : Wire.CommitResponse) (kinds : List MutationKind) :
    (∃ ks, keys r kinds = .ok ks) ↔ r.Fits kinds := by
  rw [keys_eq]
  by_cases h : r.results.length = kinds.length
  · rw [if_pos h, exists_mapM_iff, Wire.CommitResponse.Fits, and_iff_right h]
    exact forall₂_congr fun i _ => exists_keyAt_iff r i
  · rw [if_neg h]
    constructor
    · rintro ⟨_, hks⟩
      cases hks
    · intro hfits
      exact absurd hfits.1 h

end Mutation

end EntityStore
