import EntityStore.Operation
import EntityStore.Proofs.Key

/-!
# Calls of a transaction

Everything that can be asked of a transaction, as data, and what each call does to it. A transaction
that is open stages what a call has for it, or ends; one that has ended refuses every call.

* `Transaction.Call` — a call, with `perform`, and `operation` as an operation of an application;
* `Transaction.Call.stages` — the mutations that a call stages;
* `Transaction.Call.Effect`, `Transaction.Call.perform_of_active` — calls of an open transaction;
* `Transaction.Call.perform_of_ended` — calls of a transaction that has ended;
* `Transaction.run`, `Transaction.history` — calls one after the other.
-/

namespace EntityStore

variable {σ : Type}

/-- The client of a project with the usual configuration and no policy. -/
def Client.ofProject (projectId : String) : Client :=
  ⟨projectId, Config.ofProject projectId, .empty⟩

namespace Transaction

variable {c : Client} {v : Service σ} {s : Schema} {t : Transaction} {x : Session σ}

/-! ### Operations of an open transaction -/

theorem requireActive_bind {α : Type} (operation : String) (f : Transaction → Step σ α)
    (h : t.state = .active) : (requireActive operation >>= f) (t, x) = f t (t, x) := by
  refine Action.bind_of_ok f ?_
  rw [requireActive, if_pos h]

theorem requireActive_bind_ended {α : Type} (operation : String) (f : Transaction → Step σ α)
    (h : t.state ≠ .active) :
    (requireActive operation >>= f) (t, x) = (.error (t.ended operation), (t, x)) := by
  refine Action.bind_of_error f ?_
  rw [requireActive, if_neg h]

/-- A read is the read of the client that names the transaction. -/
theorem getAll_of_active (h : t.state = .active) (keys : List KeyInput) (into : Option Target) :
    getAll c v s keys into (t, x) =
      ((c.getAll v s (some t.id) keys into x).1, t, (c.getAll v s (some t.id) keys into x).2) :=
  requireActive_bind _ _ h

theorem query_of_active (h : t.state = .active) (q : Query) :
    query c v q (t, x) = ((c.runQuery v (some t.id) q x).1, t, (c.runQuery v (some t.id) q x).2) :=
  requireActive_bind _ _ h

/-- A write stages all of its mutations, or none if one of them is not compiled. -/
theorem putAll_of_active (h : t.state = .active) (ns : List Native) :
    putAll c s ns (t, x) = ((c.compilePuts s true ns).map fun _ => (),
      { t with staged := t.staged ++ (c.compilePuts s true ns).toOption.getD [] }, x) := by
  refine (requireActive_bind _ _ h).trans ?_
  cases hcompiled : c.compilePuts s true ns with
  | error e =>
    refine (Action.bind_of_error _ rfl).trans ?_
    show _ = (Except.error e, { t with staged := t.staged ++ [] }, x)
    rw [List.append_nil]
  | ok ms => exact Action.bind_of_ok _ rfl

/-- Deletions are staged one by one, up to the first item that is no key. -/
theorem stageDeletions_apply (items : List KeyInput) :
    ∀ t : Transaction, stageDeletions c items (t, x) = ((items.mapM KeyInput.check).map fun _ => (),
      { t with
        staged := t.staged ++ (KeyInput.leading items).map (Mutation.delete c.projectId) }, x) := by
  induction items with
  | nil =>
    intro t
    show _ = (Except.ok (), { t with staged := t.staged ++ [] }, x)
    rw [List.append_nil]
    rfl
  | cons item rest ih =>
    intro t
    cases item with
    | other =>
      refine (Action.bind_of_error _ rfl).trans ?_
      show _ = (Except.error _, { t with staged := t.staged ++ [] }, x)
      rw [List.append_nil]
    | key k =>
      have hfirst : (stage [Mutation.delete c.projectId k] : Step σ Unit) (t, x) =
          (.ok (), { t with staged := t.staged ++ [Mutation.delete c.projectId k] }, x) := rfl
      refine (Action.bind_of_ok _ rfl).trans ((Action.bind_of_ok _ hfirst).trans ?_)
      rw [ih, List.mapM_cons]
      simp only [KeyInput.leading, List.map_cons, List.append_assoc, List.singleton_append]
      cases rest.mapM KeyInput.check <;> rfl

theorem deleteAll_of_active (h : t.state = .active) (items : List KeyInput) :
    deleteAll c items (t, x) = ((items.mapM KeyInput.check).map fun _ => (),
      { t with
        staged := t.staged ++ (KeyInput.leading items).map (Mutation.delete c.projectId) }, x) :=
  (requireActive_bind _ _ h).trans (stageDeletions_apply items t)

/-- A commit ends the transaction when its answer is understood. -/
theorem commit_of_active (h : t.state = .active) :
    commit c v (t, x) =
      match c.commit v (some t.id) t.staged x with
      | (.error e, y) => (.error e, t, y)
      | (.ok response, y) =>
        match Mutation.keys response (t.staged.map (·.kind)) with
        | .error e => (.error e, t, y)
        | .ok keys => (.ok keys, ⟨t.id, .committed, []⟩, y) := by
  refine (requireActive_bind _ _ h).trans ?_
  cases hsent : c.commit v (some t.id) t.staged x with
  | mk r y =>
    have hstep : (onSession (c.commit v (some t.id) t.staged) : Step σ Wire.CommitResponse) (t, x) =
        (r, t, y) :=
      congrArg (fun sent => (sent.1, t, sent.2)) hsent
    cases r with
    | error e => exact Action.bind_of_error _ hstep
    | ok response =>
      refine (Action.bind_of_ok _ hstep).trans ?_
      dsimp only
      cases hkeys : Mutation.keys response (t.staged.map (·.kind)) with
      | error e => exact Action.bind_of_error _ rfl
      | ok keys => exact Action.bind_of_ok _ rfl

theorem rollback_of_active (h : t.state = .active) :
    rollback c v (t, x) =
      match Transport.call v .rollback ⟨c.projectId, t.id⟩ x with
      | (.error e, y) => (.error e, t, y)
      | (.ok _, y) => (.ok (), ⟨t.id, .rolledBack, []⟩, y) := by
  refine (requireActive_bind _ _ h).trans ?_
  cases hsent : Transport.call v .rollback ⟨c.projectId, t.id⟩ x with
  | mk r y =>
    have hstep : (onSession (Transport.call v .rollback ⟨c.projectId, t.id⟩) : Step σ Unit) (t, x) =
        (r, t, y) :=
      congrArg (fun sent => (sent.1, t, sent.2)) hsent
    cases r with
    | error e => exact Action.bind_of_error _ hstep
    | ok a => exact Action.bind_of_ok _ hstep

/-- A commit that is answered returns what its answer is understood as. -/
theorem commit_of_answered (h : t.state = .active) {response : Wire.CommitResponse}
    (hanswered : (c.commit v (some t.id) t.staged x).1 = .ok response) :
    commit c v (t, x) =
      match Mutation.keys response (t.staged.map (·.kind)) with
      | .error e => (.error e, t, (c.commit v (some t.id) t.staged x).2)
      | .ok keys => (.ok keys, ⟨t.id, .committed, []⟩, (c.commit v (some t.id) t.staged x).2) := by
  rw [commit_of_active h]
  cases hsent : c.commit v (some t.id) t.staged x with
  | mk r y =>
    rw [hsent] at hanswered
    obtain rfl : r = .ok response := hanswered
    rfl

/-- What a commit does to the session is what its request does. -/
theorem session_commit (h : t.state = .active) :
    (commit c v (t, x)).2.2 = (c.commit v (some t.id) t.staged x).2 := by
  rw [commit_of_active h]
  split
  next hsent => rw [hsent]
  next hsent =>
    rw [hsent]
    split <;> rfl

/-! ### Calls -/

/-- What can be asked of a transaction. -/
inductive Call
  | get (key : KeyInput) (into : Option Target)
  | getAll (keys : List KeyInput) (into : Option Target)
  | query (q : Query)
  | put (object : Native)
  | putAll (objects : List Native)
  | delete (key : KeyInput)
  | deleteAll (keys : List KeyInput)
  | commit
  | rollback

namespace Call

/-- The name that a refusal gives to a call. -/
def name : Call → String
  | get _ _ | getAll _ _ => "get"
  | query _ => "query"
  | put _ | putAll _ => "put"
  | delete _ | deleteAll _ => "delete"
  | commit => "commit"
  | rollback => "rollback"

/-- The operation of an application that makes a call of the transaction with a number. -/
def operation (i : Nat) : Call → Operation
  | get k into => .get (some i) k into
  | getAll ks into => .getAll (some i) ks into
  | query q => .query (some i) q
  | put n => .put (some i) n
  | putAll ns => .putAll (some i) ns
  | delete k => .delete (some i) k
  | deleteAll ks => .deleteAll (some i) ks
  | commit => .commit i
  | rollback => .rollback i

/-- The step of a call. -/
def perform (c : Client) (v : Service σ) (s : Schema) : Call → Step σ Reply
  | get k into => .object <$> Transaction.get c v s k into
  | getAll ks into => .objects <$> Transaction.getAll c v s ks into
  | query q => .entities <$> Transaction.query c v q
  | put n => Transaction.put c s n *> pure .done
  | putAll ns => Transaction.putAll c s ns *> pure .done
  | delete k => Transaction.delete c k *> pure .done
  | deleteAll ks => Transaction.deleteAll c ks *> pure .done
  | commit => .keys <$> Transaction.commit c v
  | rollback => Transaction.rollback c v *> pure .done

/-- The mutations that a call stages in an open transaction. -/
def stages (c : Client) (s : Schema) : Call → List Mutation
  | put n => (c.compilePuts s true [n]).toOption.getD []
  | putAll ns => (c.compilePuts s true ns).toOption.getD []
  | delete k => (KeyInput.leading [k]).map (Mutation.delete c.projectId)
  | deleteAll ks => (KeyInput.leading ks).map (Mutation.delete c.projectId)
  | _ => []

/-- The state in which a call that succeeds leaves an open transaction, if it ends it. -/
def ending : Call → Option TransactionState
  | commit => some .committed
  | rollback => some .rolledBack
  | _ => none

theorem map_onTransaction {α β : Type} (i : Nat) (f : α → β) (a : Step σ α) :
    (f <$> Activity.onTransaction i a : Action (Activity σ) β) =
      Activity.onTransaction i (f <$> a) := by
  funext y
  rw [Action.map_apply]
  unfold Activity.onTransaction
  cases y.begun[i]? with
  | none => rfl
  | some t =>
    show _ = (((f <$> a) (t, y.session)).1,
      (⟨((f <$> a) (t, y.session)).2.2, y.begun.set i ((f <$> a) (t, y.session)).2.1⟩ : Activity σ))
    rw [Action.map_apply]

/-- **Calls are the operations of an application on one transaction.** -/
theorem perform_operation (call : Call) (i : Nat) :
    Activity.perform c v s (call.operation i) = Activity.onTransaction i (call.perform c v s) := by
  cases call with
  | get _ _ | getAll _ _ | query _ | commit => exact map_onTransaction i _ _
  | put _ | putAll _ | delete _ | deleteAll _ | rollback => exact map_onTransaction i (fun _ => _) _

/-! ### What a call does -/

/-- A transaction that has ended refuses every call, and nothing else happens. -/
theorem perform_of_ended (call : Call) (h : t.state ≠ .active) :
    call.perform c v s (t, x) = (.error (t.ended call.name), t, x) := by
  have hget (keys : List KeyInput) (into : Option Target) :
      Transaction.getAll c v s keys into (t, x) = (.error (t.ended "get"), t, x) :=
    requireActive_bind_ended _ _ h
  cases call with
  | get k into =>
    show (_ <$> (List.head? <$> Transaction.getAll c v s [k] into)) (t, x) = _
    rw [Action.map_apply, Action.map_apply, hget]
    rfl
  | getAll ks into =>
    rw [perform, Action.map_apply, hget]
    rfl
  | query q =>
    rw [perform, Action.map_apply, Transaction.query, requireActive_bind_ended _ _ h]
    rfl
  | put n =>
    rw [perform, Action.seqRight_pure_apply, Transaction.put, Transaction.putAll,
      requireActive_bind_ended _ _ h]
    rfl
  | putAll ns =>
    rw [perform, Action.seqRight_pure_apply, Transaction.putAll, requireActive_bind_ended _ _ h]
    rfl
  | delete k =>
    rw [perform, Action.seqRight_pure_apply, Transaction.delete, Transaction.deleteAll,
      requireActive_bind_ended _ _ h]
    rfl
  | deleteAll ks =>
    rw [perform, Action.seqRight_pure_apply, Transaction.deleteAll, requireActive_bind_ended _ _ h]
    rfl
  | commit =>
    rw [perform, Action.map_apply, Transaction.commit, requireActive_bind_ended _ _ h]
    rfl
  | rollback =>
    rw [perform, Action.seqRight_pure_apply, Transaction.rollback, requireActive_bind_ended _ _ h]
    rfl

/-- What comes of a write. -/
theorem outcome_putAll (h : t.state = .active) (ns : List Native) :
    ((putAll ns).perform c v s (t, x)).1 = (c.compilePuts s true ns).map fun _ => .done := by
  rw [perform, Action.seqRight_pure_apply, putAll_of_active h]
  cases c.compilePuts s true ns <;> rfl

/-- What comes of a deletion. -/
theorem outcome_deleteAll (h : t.state = .active) (items : List KeyInput) :
    ((deleteAll items).perform c v s (t, x)).1 =
      (items.mapM KeyInput.check).map fun _ => .done := by
  rw [perform, Action.seqRight_pure_apply, deleteAll_of_active h]
  cases items.mapM KeyInput.check <;> rfl

/-- What a call can do to an open transaction: stage its mutations, or end it with success. -/
inductive Effect (c : Client) (s : Schema) (call : Call) (t : Transaction) :
    Outcome Reply × Transaction → Prop
  | stays (r : Outcome Reply) (hfails : call.ending ≠ none → ∃ e, r = .error e) :
      Effect c s call t (r, { t with staged := t.staged ++ call.stages c s })
  | ends (state : TransactionState) (r : Reply) (hends : call.ending = some state) :
      Effect c s call t (.ok r, ⟨t.id, state, []⟩)

/-- An effect of a call that stages nothing. -/
theorem Effect.unchanged {call : Call} (hstages : call.stages c s = []) (r : Outcome Reply)
    (hfails : call.ending ≠ none → ∃ e, r = .error e) : Effect c s call t (r, t) := by
  have h := Effect.stays (c := c) (s := s) (t := t) r hfails
  rw [hstages, List.append_nil] at h
  exact h

/-- **Every call of an open transaction has one of these effects.** -/
theorem perform_of_active (call : Call) (h : t.state = .active) :
    Effect c s call t ((call.perform c v s (t, x)).1, (call.perform c v s (t, x)).2.1) := by
  have hread (r : Outcome Reply) {call : Call} (hstages : call.stages c s = [])
      (hending : call.ending = none) : Effect c s call t (r, t) :=
    Effect.unchanged hstages r fun hne => absurd hending hne
  cases call with
  | get k into =>
    have hget : (Transaction.get c v s k into (t, x)).2.1 = t := by
      show ((List.head? <$> Transaction.getAll c v s [k] into) (t, x)).2.1 = t
      rw [Action.map_apply, getAll_of_active h]
    simp only [perform, Action.map_apply, hget]
    exact hread _ rfl rfl
  | getAll ks into =>
    simp only [perform, Action.map_apply, getAll_of_active h]
    exact hread _ rfl rfl
  | query q =>
    simp only [perform, Action.map_apply, query_of_active h]
    exact hread _ rfl rfl
  | put n =>
    simp only [perform, Action.seqRight_pure_apply, Transaction.put, putAll_of_active h]
    exact .stays _ fun hne => absurd rfl hne
  | putAll ns =>
    simp only [perform, Action.seqRight_pure_apply, putAll_of_active h]
    exact .stays _ fun hne => absurd rfl hne
  | delete k =>
    simp only [perform, Action.seqRight_pure_apply, Transaction.delete, deleteAll_of_active h]
    exact .stays _ fun hne => absurd rfl hne
  | deleteAll ks =>
    simp only [perform, Action.seqRight_pure_apply, deleteAll_of_active h]
    exact .stays _ fun hne => absurd rfl hne
  | commit =>
    simp only [perform, Action.map_apply, commit_of_active h]
    split
    · exact Effect.unchanged rfl _ fun _ => ⟨_, rfl⟩
    · split
      · exact Effect.unchanged rfl _ fun _ => ⟨_, rfl⟩
      · exact .ends .committed _ rfl
  | rollback =>
    simp only [perform, Action.seqRight_pure_apply, rollback_of_active h]
    split
    · exact Effect.unchanged rfl _ fun _ => ⟨_, rfl⟩
    · exact .ends .rolledBack _ rfl

/-- A call that does not end its transaction, or fails, stages its mutations. -/
theorem staged_of_stays (call : Call) (h : t.state = .active)
    (hstays : call.ending = none ∨ ∃ e, (call.perform c v s (t, x)).1 = .error e) :
    (call.perform c v s (t, x)).2.1 = { t with staged := t.staged ++ call.stages c s } := by
  have heffect := call.perform_of_active (c := c) (v := v) (s := s) (x := x) h
  generalize (call.perform c v s (t, x)).1 = r at hstays heffect
  generalize (call.perform c v s (t, x)).2.1 = after at heffect
  cases heffect with
  | stays => rfl
  | ends state r hends =>
    rcases hstays with hnone | ⟨e, he⟩
    · cases hends.symm.trans hnone
    · cases he

end Call

/-! ### Calls one after the other -/

/-- The transaction and the session after calls. A call that fails does not keep the others from
being made. -/
def run (c : Client) (v : Service σ) (s : Schema) (calls : List Call)
    (y : Transaction × Session σ) : Transaction × Session σ :=
  calls.foldl (fun y call => (call.perform c v s y).2) y

/-- Calls with what comes of each. -/
def history (c : Client) (v : Service σ) (s : Schema) :
    List Call → Transaction × Session σ → List (Call × Outcome Reply)
  | [], _ => []
  | call :: rest, y =>
    (call, (call.perform c v s y).1) :: history c v s rest (call.perform c v s y).2

theorem run_cons (call : Call) (rest : List Call) (y : Transaction × Session σ) :
    run c v s (call :: rest) y = run c v s rest (call.perform c v s y).2 := rfl

theorem run_append (earlier later : List Call) (y : Transaction × Session σ) :
    run c v s (earlier ++ later) y = run c v s later (run c v s earlier y) :=
  List.foldl_append

/-- Nothing happens after the end of a transaction. -/
theorem run_of_ended (h : t.state ≠ .active) (calls : List Call) :
    run c v s calls (t, x) = (t, x) := by
  induction calls with
  | nil => rfl
  | cons call rest ih => rw [run_cons, Call.perform_of_ended call h, ih]

end Transaction

end EntityStore
