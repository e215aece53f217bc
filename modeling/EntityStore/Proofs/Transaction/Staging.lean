import EntityStore.Proofs.Mutation
import EntityStore.Proofs.Transaction.Calls
import EntityStore.Proofs.Transport

/-!
# What a commit sends

Writes are staged one after the other, and the next commit sends them. Reads, writes that fail and
commits that fail stage nothing.

* `Client.PutsAs` — how a transaction writes an object;
* `Transaction.Call.StagedAs` — what a call has staged, by what came of it;
* `Transaction.exists_parts` — a run stages the parts of its calls in their order;
* `Transaction.commit_sends_staged` — what the next commit sends, and what it returns.
-/

namespace EntityStore

variable {σ : Type} {c : Client} {v : Service σ} {s : Schema}

/-! ### Writes -/

namespace Client

/-- How a transaction writes an object: as the deletion of its key where the key is marked for it,
and else as the client writes it outside of a transaction, which is an insertion exactly if the key
is new or incomplete. -/
def PutsAs (c : Client) (s : Schema) (n : Native) (m : Mutation) : Prop :=
  ∃ e, intoEntity s n = .ok e ∧
    if e.key.isDeleted then m = Mutation.delete c.projectId e.key
    else c.compilePuts s false [n] = .ok [m] ∧ ∃ w, e.encode c.projectId c.policy = .ok w ∧
      m = if e.key.isNew || e.key.isIncomplete then ⟨.insert, .insert w⟩ else ⟨.upsert, .upsert w⟩

/-- The mutation that an object is compiled to, in a transaction or outside of one. -/
def CompilesTo (c : Client) (s : Schema) (transactional : Bool) (n : Native) (m : Mutation) :
    Prop :=
  ∃ e, intoEntity s n = .ok e ∧ Mutation.put c.projectId c.policy transactional e = .ok m

/-- Objects are compiled one by one. -/
theorem compilePuts_eq_ok_iff {transactional : Bool} {ns : List Native} {ms : List Mutation} :
    c.compilePuts s transactional ns = .ok ms ↔
      List.Forall₂ (c.CompilesTo s transactional) ns ms := by
  rw [compilePuts, mapM_eq_ok_iff]
  refine iff_of_eq (congrArg (List.Forall₂ · ns ms) ?_)
  funext n m
  refine propext ⟨bind_eq_ok, ?_⟩
  rintro ⟨e, he, hm⟩
  rw [he]
  exact hm

theorem compilePuts_singleton {transactional : Bool} {n : Native} {m : Mutation} :
    c.compilePuts s transactional [n] = .ok [m] ↔ c.CompilesTo s transactional n m := by
  rw [compilePuts_eq_ok_iff, List.forall₂_cons, and_iff_left List.Forall₂.nil]

theorem putsAs_iff {n : Native} {m : Mutation} : c.PutsAs s n m ↔ c.CompilesTo s true n m := by
  refine exists_congr fun e => and_congr_right fun he => ?_
  rw [Mutation.put_transactional]
  cases e.key.isDeleted with
  | true => exact ⟨fun h => congrArg _ h.symm, fun h => (Except.ok.inj h).symm⟩
  | false =>
    have hput : c.compilePuts s false [n] = .ok [m] ↔
        Mutation.put c.projectId c.policy false e = .ok m := by
      rw [compilePuts_singleton, CompilesTo, he]
      exact ⟨fun ⟨_, h, hm⟩ => Except.ok.inj h ▸ hm, fun hm => ⟨e, rfl, hm⟩⟩
    show (c.compilePuts s false [n] = .ok [m] ∧ _) ↔
      Mutation.put c.projectId c.policy false e = .ok m
    rw [hput, and_iff_left_iff_imp, Mutation.put_outside]
    intro hm
    obtain ⟨w, hw, hm⟩ := map_eq_ok hm
    exact ⟨w, hw, hm.symm⟩

theorem compilePuts_transactional {ns : List Native} {ms : List Mutation} :
    c.compilePuts s true ns = .ok ms ↔ List.Forall₂ (c.PutsAs s) ns ms := by
  have hputs : c.CompilesTo s true = c.PutsAs s := by
    funext n m
    exact propext putsAs_iff.symm
  rw [compilePuts_eq_ok_iff, hputs]

end Client

namespace Transaction

variable {t : Transaction} {x : Session σ}

/-! ### What a call stages -/

namespace Call

/-- What a call has staged, by what came of it. -/
inductive StagedAs (c : Client) (s : Schema) : Call × Outcome Reply → List Mutation → Prop
  | put {n : Native} {m : Mutation} {r : Reply} (h : c.PutsAs s n m) :
      StagedAs c s (put n, .ok r) [m]
  | putAll {ns : List Native} {ms : List Mutation} {r : Reply}
      (h : List.Forall₂ (c.PutsAs s) ns ms) : StagedAs c s (putAll ns, .ok r) ms
  | delete (k : Key) (r : Reply) :
      StagedAs c s (delete (.key k), .ok r) [Mutation.delete c.projectId k]
  | deleteAll (ks : List Key) (r : Reply) :
      StagedAs c s (deleteAll (ks.map .key), .ok r) (ks.map (Mutation.delete c.projectId))
  | get (k : KeyInput) (into : Option Target) (r : Outcome Reply) : StagedAs c s (get k into, r) []
  | getAll (ks : List KeyInput) (into : Option Target) (r : Outcome Reply) :
      StagedAs c s (getAll ks into, r) []
  | query (q : Query) (r : Outcome Reply) : StagedAs c s (query q, r) []
  | failed (call : Call) (e : Error) : StagedAs c s (call, .error e) []

/-- A call that may stand before a commit: deletions succeed, and neither a commit nor a rollback
does. -/
def Prepares : Call → Outcome Reply → Prop
  | deleteAll _, r => ∃ a, r = .ok a
  | commit, r | rollback, r => ∃ e, r = .error e
  | _, _ => True

/-- A call that may stand before a commit leaves the transaction open, and stages its mutations. -/
theorem staged_of_prepares (call : Call) (h : t.state = .active)
    (hprepares : call.Prepares (call.perform c v s (t, x)).1) :
    (call.perform c v s (t, x)).2.1 = { t with staged := t.staged ++ call.stages c s } := by
  refine call.staged_of_stays h ?_
  cases call with
  | commit | rollback => exact Or.inr hprepares
  | _ => exact Or.inl rfl

theorem stagedAs_putAll (h : t.state = .active) (ns : List Native) :
    StagedAs c s (putAll ns, ((putAll ns).perform c v s (t, x)).1) ((putAll ns).stages c s) := by
  rw [outcome_putAll h, stages]
  cases hcompiled : c.compilePuts s true ns with
  | error e => exact .failed _ e
  | ok ms => exact .putAll (Client.compilePuts_transactional.mp hcompiled)

/-- **What a call stages is what its outcome says.** -/
theorem stagedAs_of_prepares (call : Call) (h : t.state = .active)
    (hprepares : call.Prepares (call.perform c v s (t, x)).1) :
    StagedAs c s (call, (call.perform c v s (t, x)).1) (call.stages c s) := by
  cases call with
  | get k into => exact .get k into _
  | getAll ks into => exact .getAll ks into _
  | query q => exact .query q _
  | put n =>
    show StagedAs c s (put n, ((putAll [n]).perform c v s (t, x)).1) ((putAll [n]).stages c s)
    rw [outcome_putAll h, stages]
    cases hcompiled : c.compilePuts s true [n] with
    | error e => exact .failed _ e
    | ok ms =>
      obtain ⟨m, rest, hm, hrest, rfl⟩ :=
        List.forall₂_cons_left_iff.mp (Client.compilePuts_transactional.mp hcompiled)
      obtain rfl := List.forall₂_nil_left_iff.mp hrest
      exact .put hm
  | putAll ns => exact stagedAs_putAll h ns
  | delete item =>
    cases item with
    | key k =>
      show StagedAs c s (delete (.key k), ((deleteAll [.key k]).perform c v s (t, x)).1) _
      rw [outcome_deleteAll h]
      exact .delete k _
    | other =>
      show StagedAs c s (delete .other, ((deleteAll [.other]).perform c v s (t, x)).1) _
      rw [outcome_deleteAll h]
      exact .failed _ _
  | deleteAll items =>
    obtain ⟨a, ha⟩ := hprepares
    rw [ha]
    rw [outcome_deleteAll h] at ha
    obtain ⟨ks, hks, -⟩ := map_eq_ok ha
    obtain rfl := KeyInput.mapM_check_eq_ok_iff.mp hks
    rw [stages, KeyInput.leading_map]
    exact .deleteAll ks a
  | commit =>
    obtain ⟨e, he⟩ := hprepares
    rw [he]
    exact .failed _ e
  | rollback =>
    obtain ⟨e, he⟩ := hprepares
    rw [he]
    exact .failed _ e

end Call

/-! ### What a run stages -/

/-- **A run stages the parts of its calls in their order.** -/
theorem exists_parts (calls : List Call) : ∀ (t : Transaction) (x : Session σ), t.state = .active →
    (∀ e ∈ history c v s calls (t, x), e.1.Prepares e.2) →
    ∃ parts y, List.Forall₂ (Call.StagedAs c s) (history c v s calls (t, x)) parts ∧
      run c v s calls (t, x) = ({ t with staged := t.staged ++ parts.flatten }, y) := by
  induction calls with
  | nil =>
    intro t x _ _
    refine ⟨[], x, .nil, ?_⟩
    rw [List.flatten_nil, List.append_nil]
    rfl
  | cons call rest ih =>
    intro t x h hprepares
    rw [history, List.forall_mem_cons] at hprepares
    obtain ⟨hcall, hrest⟩ := hprepares
    have hpart := call.stagedAs_of_prepares h hcall
    have hstays := call.staged_of_prepares h hcall
    rw [run_cons, history]
    cases hafter : (call.perform c v s (t, x)).2 with
    | mk t' x' =>
      rw [hafter] at hstays hrest
      obtain rfl : t' = _ := hstays
      obtain ⟨parts, y, hparts, hrun⟩ :=
        ih { t with staged := t.staged ++ call.stages c s } x' h hrest
      refine ⟨call.stages c s :: parts, y, .cons hpart hparts, ?_⟩
      rw [hrun, List.flatten_cons, List.append_assoc]

/-! ### The next commit -/

/-- **A commit sends what was staged.** After writes, deletions that succeed, reads, and commits and
rollbacks that fail, the staged mutations are those of the calls, one part for each call. The next
commit sends them in one transactional request that names the transaction. It returns the keys of
the results at the places of its writes if the answer fits, and fails if the number of results is
another one. -/
theorem commit_sends_staged (h : t.state = .active) (calls : List Call)
    (hprepares : ∀ e ∈ history c v s calls (t, x), e.1.Prepares e.2) :
    ∃ parts staged y, List.Forall₂ (Call.StagedAs c s) (history c v s calls (t, x)) parts ∧
      staged = t.staged ++ parts.flatten ∧
      run c v s calls (t, x) = (⟨t.id, .active, staged⟩, y) ∧
      (y.CanSend v → (commit c v (run c v s calls (t, x))).2.2.requests = y.requests ++
        [⟨.commit, ⟨c.projectId, .transactional, some t.id, staged.map (·.message)⟩⟩]) ∧
      ∀ response, (c.commit v (some t.id) staged y).1 = .ok response →
        (response.Fits (staged.map (·.kind)) →
          ∃ keys, (commit c v (run c v s calls (t, x))).1 = .ok keys ∧
            List.Forall₂ (fun i k => response.keyAt i = .ok k)
              (Mutation.writePlaces (staged.map (·.kind))) keys) ∧
        (response.results.length ≠ staged.length →
          (commit c v (run c v s calls (t, x))).1 =
            .error (.decode (.resultCount response.results.length staged.length))) := by
  obtain ⟨parts, y, hparts, hrun⟩ := exists_parts calls t x h hprepares
  rw [h] at hrun
  refine ⟨parts, t.staged ++ parts.flatten, y, hparts, rfl, hrun, ?_, ?_⟩
  · intro hsend
    rw [hrun, session_commit rfl]
    exact Transport.requests_call_of_canSend _ hsend
  · intro response hresponse
    rw [hrun, commit_of_answered rfl hresponse]
    constructor
    · intro hfits
      obtain ⟨keys, hkeys⟩ := (Mutation.exists_keys_iff _ _).mpr hfits
      rw [hkeys]
      rw [Mutation.keys_eq, if_pos hfits.1] at hkeys
      exact ⟨keys, rfl, mapM_eq_ok_iff.mp hkeys⟩
    · intro hlength
      rw [Mutation.keys_eq, List.length_map, if_neg hlength]

/-! ### A run with failures -/

/-- A user. -/
def userKey (id : Option KeyId) : Key := .root none ⟨"User", id, false, false⟩

/-- Writes and deletions, and between them a read, a write and a commit. -/
def signUp : List Call :=
  [.put (.entity ⟨userKey none, []⟩), .get (.key (userKey none)) none,
    .putAll [.entity ⟨userKey none, []⟩, .keyless], .delete (.key (userKey (some (.name "b")))),
    .commit, .put (.entity ⟨(userKey (some (.name "a"))).markDeleted, []⟩),
    .putAll [.entity ⟨userKey (some (.name "c")), []⟩]]

/-- A session in which a lookup and the first commit are refused, and the second commit allocates a
key. -/
def allocation : Session Script :=
  .playing [⟨.lookup, .error (.backend "unavailable")⟩, ⟨.commit, .error (.backend "aborted")⟩,
    ⟨.commit, .ok ⟨[some ((userKey (some (.number 7))).encode "p"), none, none, none]⟩⟩]

/-- The transaction before its last commit. -/
def signedUp : Transaction × Session Script :=
  run (.ofProject "p") .playing [] signUp (⟨[1], .active, []⟩, allocation)

theorem prepares_signUp : ∀ e ∈ history (.ofProject "p") .playing [] signUp
    (⟨[1], .active, []⟩, allocation), e.1.Prepares e.2 := by
  simp only [signUp, history, List.forall_mem_cons]
  refine ⟨trivial, trivial, trivial, trivial, ⟨_, rfl⟩, trivial, trivial, ?_⟩
  exact fun _ h => absurd h List.not_mem_nil

/-- Of four results, the first and the last are those of writes. -/
theorem commit_sends_staged_signUp :
    (commit (.ofProject "p") .playing signedUp).2.2.requests =
        signedUp.2.requests ++ [⟨.commit, ⟨"p", .transactional, some [1],
          [.insert ⟨some ((userKey none).encode "p"), []⟩,
            .delete ((userKey (some (.name "b"))).encode "p"),
            .delete ((userKey (some (.name "a"))).encode "p"),
            .upsert ⟨some ((userKey (some (.name "c"))).encode "p"), []⟩]⟩⟩] ∧
      (commit (.ofProject "p") .playing signedUp).1 =
        .ok [some (userKey (some (.number 7))), none] := by
  obtain ⟨parts, staged, y, -, -, hrun, hsent, hreturned⟩ :=
    commit_sends_staged (v := .playing) rfl signUp prepares_signUp
  obtain rfl : staged = signedUp.1.staged := congrArg (·.1.staged) hrun.symm
  obtain rfl : y = signedUp.2 := congrArg Prod.snd hrun.symm
  have hplaces : Mutation.writePlaces (signedUp.1.staged.map (·.kind)) = [0, 3] := rfl
  refine ⟨hsent ⟨rfl, _, _, rfl⟩, ?_⟩
  obtain ⟨keys, hkeys, hresults⟩ := (hreturned _ rfl).1 ⟨rfl, by
    rw [hplaces]
    intro i hi k hk
    rcases List.mem_pair.mp hi with rfl | rfl
    · obtain rfl := Option.some.inj (Option.some.inj hk)
      exact ⟨userKey (some (.number 7)), rfl⟩
    · cases hk⟩
  rw [hplaces] at hresults
  obtain ⟨first, _, hfirst, hrest, rfl⟩ := List.forall₂_cons_left_iff.mp hresults
  obtain ⟨last, _, hlast, hnone, rfl⟩ := List.forall₂_cons_left_iff.mp hrest
  obtain rfl := List.forall₂_nil_left_iff.mp hnone
  obtain rfl := Except.ok.inj hfirst
  obtain rfl := Except.ok.inj hlast
  exact hkeys

end Transaction

end EntityStore
