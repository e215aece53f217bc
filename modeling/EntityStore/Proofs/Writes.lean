import EntityStore.Proofs.Transaction.Staging

/-!
# Writes at once

Outside of a transaction, all writes of a call are sent in one commit, or none of them is.

* `Client.WritesAs`, `Client.Rejects` — how an object is written, and why it is not;
* `Client.atOnce` — the commit of writes that belong to no transaction;
* `Mutation.ReturnsKeys` — what a write returns, by the answer to its commit;
* `Client.writes_all_or_nothing` — what a list of writes or deletions sends, and what it returns.
-/

namespace EntityStore

namespace Mutation

/-! ### What a write returns -/

/-- What a write of some objects returns, by the answer to its commit: a failure as it is, another
one if there is not one result for each object, and else the key of each result at its own place,
up to the first key that is not read. -/
structure ReturnsKeys (count : Nat) (answer : Outcome Wire.CommitResponse)
    (returned : Outcome (List (Option Key))) : Prop where
  failed : ∀ e, answer = .error e → returned = .error e
  miscounted : ∀ r, answer = .ok r → r.results.length ≠ count →
    returned = .error (.decode (.resultCount r.results.length count))
  aligned : ∀ r, answer = .ok r → r.results.length = count →
    (∀ i < count, ∃ k, r.keyAt i = .ok k) →
      ∃ keys, returned = .ok keys ∧ keys.length = count ∧
        ∀ i (h : i < keys.length), r.keyAt i = .ok keys[i]
  unreadable : ∀ r, answer = .ok r → r.results.length = count →
    ∀ i < count, ∀ e, (∀ j < i, ∃ k, r.keyAt j = .ok k) → r.keyAt i = .error e →
      returned = .error e

theorem returnsKeys {kinds : List MutationKind} (h : ∀ kind ∈ kinds, kind ≠ .delete)
    (answer : Outcome Wire.CommitResponse) :
    ReturnsKeys kinds.length answer (answer.bind fun r => keys r kinds) where
  failed := by
    rintro e rfl
    rfl
  miscounted := by
    rintro r rfl hlength
    show keys r kinds = _
    rw [keys_eq, if_neg hlength]
  aligned := by
    rintro r rfl hlength hread
    obtain ⟨read, hkeys⟩ : ∃ read, (List.range kinds.length).mapM r.keyAt = .ok read :=
      exists_mapM_iff.mpr fun i hi => hread i (List.mem_range.mp hi)
    obtain ⟨hsame, hall⟩ := List.forall₂_iff_get.mp (mapM_eq_ok_iff.mp hkeys)
    rw [List.length_range] at hsame
    refine ⟨read, ?_, hsame.symm, fun i hi => ?_⟩
    · show keys r kinds = _
      rw [keys_eq, if_pos hlength, writePlaces_of_writes h, hkeys]
    · simpa using hall i (by simpa [hsame] using hi) hi
  unreadable := by
    rintro r rfl hlength i hi e hbefore herror
    show keys r kinds = _
    rw [keys_eq, if_pos hlength, writePlaces_of_writes h]
    obtain ⟨d, hd⟩ := Nat.exists_eq_add_of_lt hi
    have hsplit : List.range kinds.length =
        List.range i ++ i :: (List.range d).map fun j => i + (j + 1) := by
      rw [hd, Nat.add_assoc, List.range_add, List.range_succ_eq_map]
      simp
    rw [hsplit]
    exact mapM_of_first_error (fun j hj => hbefore j (List.mem_range.mp hj)) herror

end Mutation

namespace Client

variable {σ : Type} {c : Client} {v : Service σ} {s : Schema} {x : Session σ}

/-! ### Objects -/

/-- How a client writes an object at once: as an insertion of the entity that it stands for if the
key of the entity is new or incomplete, and else as an upsertion of it. -/
def WritesAs (c : Client) (s : Schema) (n : Native) (m : Wire.Mutation) : Prop :=
  ∃ e w, intoEntity s n = .ok e ∧ e.encode c.projectId c.policy = .ok w ∧
    m = if e.key.isNew || e.key.isIncomplete then .insert w else .upsert w

/-- Why a client does not write an object: it stands for no entity, or its entity is not encoded. -/
def Rejects (c : Client) (s : Schema) (n : Native) (e : Error) : Prop :=
  intoEntity s n = .error e ∨
    ∃ entity, intoEntity s n = .ok entity ∧ entity.encode c.projectId c.policy = .error e

/-- An object that is written is not rejected. -/
theorem WritesAs.not_rejects {n : Native} {m : Wire.Mutation} (h : c.WritesAs s n m) (e : Error) :
    ¬ c.Rejects s n e := by
  obtain ⟨entity, w, hentity, hw, -⟩ := h
  rintro (hfails | ⟨entity', hentity', hfails⟩)
  · rw [hentity] at hfails
    cases hfails
  · obtain rfl := Except.ok.inj (hentity.symm.trans hentity')
    rw [hw] at hfails
    cases hfails

/-- An object is written in one way. -/
theorem writesAs_unique : Relator.RightUnique (c.WritesAs s) := by
  rintro n m m' ⟨e, w, he, hw, rfl⟩ ⟨e', w', he', hw', rfl⟩
  obtain rfl := Except.ok.inj (he.symm.trans he')
  obtain rfl := Except.ok.inj (hw.symm.trans hw')
  rfl

/-- A mark for deletion does not turn a write into a deletion. -/
theorem WritesAs.ne_delete {n : Native} {m : Wire.Mutation} (h : c.WritesAs s n m)
    (k : Wire.Key) : m ≠ .delete k := by
  obtain ⟨e, w, -, -, rfl⟩ := h
  split <;> exact nofun

/-- The mutation of an object outside of a transaction. -/
def compilePut (c : Client) (s : Schema) (n : Native) : Outcome Mutation :=
  (intoEntity s n).bind (Mutation.put c.projectId c.policy false)

theorem compilePut_eq_error_iff {n : Native} {e : Error} :
    c.compilePut s n = .error e ↔ c.Rejects s n e := by
  unfold compilePut Rejects
  cases intoEntity s n with
  | error e' => simp [Except.bind]
  | ok entity =>
    show Mutation.put c.projectId c.policy false entity = .error e ↔ _
    rw [Mutation.put_outside]
    cases hencoded : entity.encode c.projectId c.policy <;> simp [Except.map, hencoded]

theorem compilePut_eq_ok {n : Native} {m : Mutation} (h : c.compilePut s n = .ok m) :
    c.WritesAs s n m.message ∧ m.kind ≠ .delete := by
  obtain ⟨e, he, hput⟩ := bind_eq_ok h
  rw [Mutation.put_outside] at hput
  obtain ⟨w, hw, rfl⟩ := map_eq_ok hput
  cases hkey : e.key.isNew || e.key.isIncomplete with
  | true => exact ⟨⟨e, w, he, hw, by rw [hkey]; rfl⟩, nofun⟩
  | false => exact ⟨⟨e, w, he, hw, by rw [hkey]; rfl⟩, nofun⟩

/-- An object that is not rejected is written. -/
theorem exists_compilePut {n : Native} (h : ∀ e, ¬ c.Rejects s n e) :
    ∃ m, c.compilePut s n = .ok m := by
  cases hput : c.compilePut s n with
  | error e => exact absurd (compilePut_eq_error_iff.mp hput) (h e)
  | ok m => exact ⟨m, rfl⟩

/-- Mutations of writes are those that the objects are written as. -/
theorem writesAs_of_compilePuts {ns : List Native} {ms : List Mutation}
    (h : c.compilePuts s false ns = .ok ms) :
    List.Forall₂ (c.WritesAs s) ns (ms.map (·.message)) ∧
      ∀ kind ∈ ms.map (·.kind), kind ≠ .delete := by
  have hms : List.Forall₂ (fun n m => c.compilePut s n = .ok m) ns ms := mapM_eq_ok_iff.mp h
  constructor
  · rw [List.forall₂_map_right_iff]
    exact hms.imp fun n m hm => (compilePut_eq_ok hm).1
  · intro kind hkind
    obtain ⟨m, hm, rfl⟩ := List.mem_map.mp hkind
    obtain ⟨n, -, hn⟩ := (mem_of_mapM h).mp hm
    exact (compilePut_eq_ok hn).2

/-! ### Commits -/

/-- The commit of mutations that belong to no transaction. -/
def atOnce (c : Client) (ms : List Wire.Mutation) : Wire.CommitRequest :=
  ⟨c.projectId, .nonTransactional, none, ms⟩

/-- Objects that are not all compiled are not sent. -/
theorem putAll_of_error {ns : List Native} {e : Error} (h : c.compilePuts s false ns = .error e) :
    c.putAll v s ns x = (.error e, x) :=
  Action.ofOutcome_bind_of_error _ _ h

/-- Objects that are all compiled are sent in one commit. -/
theorem putAll_of_ok {ns : List Native} {ms : List Mutation}
    (h : c.compilePuts s false ns = .ok ms) (hsome : ms ≠ []) :
    c.putAll v s ns x =
      ((Transport.call v .commit (c.atOnce (ms.map (·.message))) x).1.bind fun r =>
          Mutation.keys r (ms.map (·.kind)),
        (Transport.call v .commit (c.atOnce (ms.map (·.message))) x).2) := by
  have hempty : ms.isEmpty = false := by simpa using hsome
  rw [putAll, Action.ofOutcome_bind_of_ok _ _ h, hempty]
  exact Action.bind_ofOutcome_apply (c.commit v none ms)
    (fun r => Mutation.keys r (ms.map (·.kind))) x

/-- Keys that are all accepted are deleted in one commit. -/
theorem deleteAll_of_keys {ks : List Key} (hsome : ks ≠ []) :
    c.deleteAll v (ks.map .key) x =
      let request := c.atOnce (ks.map fun k => .delete (k.encode c.projectId))
      ((Transport.call v .commit request x).1.map fun _ => (),
        (Transport.call v .commit request x).2) := by
  have hmutations : (ks.map KeyInput.key).mapM c.compileDelete =
      .ok (ks.map (Mutation.delete c.projectId)) := by
    rw [mapM_eq_ok_iff, List.forall₂_map_left_iff, List.forall₂_map_right_iff]
    exact List.forall₂_same.mpr fun _ _ => rfl
  have hempty : (ks.map (Mutation.delete c.projectId)).isEmpty = false := by simpa using hsome
  have hmessages : (ks.map (Mutation.delete c.projectId)).map (·.message) =
      ks.map fun k => .delete (k.encode c.projectId) := List.map_map
  rw [deleteAll, Action.ofOutcome_bind_of_ok _ _ hmutations, hempty, ← hmessages]
  exact Action.map_apply (fun _ => ()) (c.commit v none (ks.map (Mutation.delete c.projectId))) x

/-- If an item is no key, nothing is deleted. -/
theorem deleteAll_of_other {items : List KeyInput} (h : .other ∈ items) :
    c.deleteAll v items x = (.error .missingAttribute, x) := by
  have hcompiled : items.mapM c.compileDelete = .error .missingAttribute := by
    obtain ⟨front, item, back, e, rfl, hfront, herror⟩ :=
      exists_first_error (f := c.compileDelete) ⟨.other, h, _, rfl⟩
    cases item with
    | key k => cases herror
    | other =>
      obtain rfl := Except.error.inj herror
      exact mapM_of_first_error hfront herror
  exact Action.ofOutcome_bind_of_error _ _ hcompiled

/-! ### All or nothing -/

/-- **Writes at once are all sent or none of them.** Nothing is sent for no objects, and if one of
them is rejected; the first one that is tells the failure. Else one commit without a transaction is
sent, with an insertion or an upsertion for each object in its place, and the keys of its results
come back in their places. Deletions are sent in the same way, and are made by key. -/
theorem writes_all_or_nothing (c : Client) (v : Service σ) (s : Schema) (x : Session σ) :
    (c.putAll v s [] x = (.ok [], x) ∧ c.deleteAll v [] x = (.ok (), x)) ∧
    (∀ ns, (∃ n ∈ ns, ∃ e, c.Rejects s n e) →
      ∃ front n back e, ns = front ++ n :: back ∧ (∀ a ∈ front, ∀ e, ¬ c.Rejects s a e) ∧
        c.Rejects s n e ∧ c.putAll v s ns x = (.error e, x)) ∧
    (∀ ns, ns ≠ [] → (∀ n ∈ ns, ∀ e, ¬ c.Rejects s n e) → x.CanSend v →
      ∃ ms, List.Forall₂ (c.WritesAs s) ns ms ∧ (∀ m ∈ ms, ∀ k, m ≠ .delete k) ∧
        (c.atOnce ms).mode = .nonTransactional ∧
        (c.putAll v s ns x).2.requests = x.requests ++ [⟨.commit, c.atOnce ms⟩] ∧
        Mutation.ReturnsKeys ns.length (Transport.call v .commit (c.atOnce ms) x).1
          (c.putAll v s ns x).1) ∧
    (∀ items, KeyInput.other ∈ items →
      c.deleteAll v items x = (.error .missingAttribute, x)) ∧
    ∀ ks : List Key, ks ≠ [] → x.CanSend v →
      let request := c.atOnce (ks.map fun k => .delete (k.encode c.projectId))
      request.mode = .nonTransactional ∧
        (c.deleteAll v (ks.map .key) x).2.requests = x.requests ++ [⟨.commit, request⟩] ∧
        (c.deleteAll v (ks.map .key) x).1 =
          (Transport.call v .commit request x).1.map fun _ => () := by
  refine ⟨⟨rfl, rfl⟩, ?_, ?_, fun items h => deleteAll_of_other h, ?_⟩
  -- objects are compiled in order, so the first one that is rejected tells the failure
  · rintro ns ⟨n, hn, e, hrejects⟩
    obtain ⟨front, n', back, e', rfl, hfront, herror⟩ :=
      exists_first_error (f := c.compilePut s) ⟨n, hn, e, compilePut_eq_error_iff.mpr hrejects⟩
    refine ⟨front, n', back, e', rfl, ?_, compilePut_eq_error_iff.mp herror,
      putAll_of_error (mapM_of_first_error hfront herror)⟩
    intro a ha e'' hrejected
    obtain ⟨m, hm⟩ := hfront a ha
    rw [compilePut_eq_error_iff.mpr hrejected] at hm
    cases hm
  -- all objects are compiled before the commit
  · intro ns hsome hwritten hsend
    obtain ⟨ms, hms⟩ : ∃ ms, c.compilePuts s false ns = .ok ms :=
      exists_mapM_iff.mpr fun n hn => exists_compilePut (hwritten n hn)
    obtain ⟨hwrites, hkinds⟩ := writesAs_of_compilePuts hms
    have hlength : ns.length = (ms.map (·.kind)).length := by
      rw [hwrites.length_eq, List.length_map, List.length_map]
    have hms_some : ms ≠ [] := by
      rintro rfl
      exact hsome (List.length_eq_zero_iff.mp hlength)
    rw [putAll_of_ok hms hms_some, hlength]
    refine ⟨ms.map (·.message), hwrites, ?_, rfl, Transport.requests_call_of_canSend _ hsend,
      Mutation.returnsKeys hkinds _⟩
    intro m hm
    obtain ⟨mutation, hmutation, rfl⟩ := List.mem_map.mp hm
    obtain ⟨n, -, hn⟩ := (mem_of_mapM hms).mp hmutation
    exact (compilePut_eq_ok hn).1.ne_delete
  · intro ks hsome hsend
    rw [deleteAll_of_keys hsome]
    exact ⟨rfl, Transport.requests_call_of_canSend _ hsend, rfl⟩

/-- A known user whose key is marked for deletion, and a user without an identifier. -/
def twoUsers : List Native :=
  [.entity ⟨(Transaction.userKey (some (.name "a"))).markDeleted, []⟩,
    .entity ⟨Transaction.userKey none, []⟩]

/-- A session in which two commits are granted; the first one allocates a key. -/
def twoCommits : Session Script :=
  .playing [⟨.commit, .ok ⟨[none, some ((Transaction.userKey (some (.number 7))).encode "p")]⟩⟩,
    ⟨.commit, .ok ⟨[none]⟩⟩]

/-- The marked user is written and not deleted. With an object that is no entity behind them,
neither of the users is written. -/
theorem writes_all_or_nothing_users :
    ((ofProject "p").putAll .playing [] twoUsers twoCommits).2.requests =
        [⟨.commit, ⟨"p", .nonTransactional, none,
          [.upsert ⟨some ((Transaction.userKey (some (.name "a"))).encode "p"), []⟩,
            .insert ⟨some ((Transaction.userKey none).encode "p"), []⟩]⟩⟩] ∧
      ((ofProject "p").putAll .playing [] twoUsers twoCommits).1 =
        .ok [none, some (Transaction.userKey (some (.number 7)))] ∧
      (ofProject "p").putAll .playing [] (twoUsers ++ [.keyless]) twoCommits =
        (.error .missingAttribute, twoCommits) := by
  obtain ⟨-, hrejected, hsent, -⟩ := writes_all_or_nothing (ofProject "p") .playing [] twoCommits
  have hwritten : List.Forall₂ ((ofProject "p").WritesAs []) twoUsers
      [.upsert ⟨some ((Transaction.userKey (some (.name "a"))).encode "p"), []⟩,
        .insert ⟨some ((Transaction.userKey none).encode "p"), []⟩] :=
    .cons ⟨_, _, rfl, rfl, rfl⟩ (.cons ⟨_, _, rfl, rfl, rfl⟩ .nil)
  have hfine : ∀ n ∈ twoUsers, ∀ e, ¬ (ofProject "p").Rejects [] n e := by
    obtain ⟨hmarked, hnext⟩ := List.forall₂_cons.mp hwritten
    obtain ⟨hfresh, -⟩ := List.forall₂_cons.mp hnext
    exact List.forall_mem_cons.mpr ⟨hmarked.not_rejects, List.forall_mem_singleton.mpr
      hfresh.not_rejects⟩
  obtain ⟨ms, hms, -, -, hrequests, hreturns⟩ :=
    hsent twoUsers (List.cons_ne_nil _ _) hfine ⟨rfl, _, _, rfl⟩
  obtain rfl := writesAs_unique.forall₂ hms hwritten
  refine ⟨hrequests, ?_, ?_⟩
  · have hread : ∀ i < 2, ∃ k, Wire.CommitResponse.keyAt
        ⟨[none, some ((Transaction.userKey (some (.number 7))).encode "p")]⟩ i = .ok k
      | 0, _ => ⟨none, rfl⟩
      | 1, _ => ⟨some (Transaction.userKey (some (.number 7))), rfl⟩
    obtain ⟨keys, hkeys, hlength, hplaces⟩ := hreturns.aligned _ rfl rfl hread
    obtain ⟨first, last, rfl⟩ := List.length_eq_two.mp hlength
    obtain rfl := Except.ok.inj (hplaces 0 Nat.zero_lt_two)
    obtain rfl := Except.ok.inj (hplaces 1 Nat.one_lt_two)
    exact hkeys
  · obtain ⟨front, n, back, e, hsplit, -, hrejects, hreturned⟩ :=
      hrejected (twoUsers ++ [.keyless]) ⟨.keyless, by simp, _, Or.inl rfl⟩
    have hn : n ∈ twoUsers ++ [.keyless] := hsplit ▸ List.mem_append_right _ List.mem_cons_self
    rcases List.mem_append.mp hn with huser | hkeyless
    · exact absurd hrejects (hfine n huser e)
    · obtain rfl := List.mem_singleton.mp hkeyless
      rcases hrejects with hfails | ⟨_, hentity, -⟩
      · obtain rfl := Except.error.inj hfails
        exact hreturned
      · cases hentity

end Client

end EntityStore
