import EntityStore.Proofs.Transaction.Calls
import EntityStore.Proofs.Transport

/-!
# The end of a transaction

A transaction is open from its beginning until a commit or a rollback succeeds. From then on it
keeps the state that the call has given it, and refuses everything that is asked of it.

* `Client.begin_eq_ok` — a transaction begins open and without mutations;
* `Transaction.Call.Completes` — a commit or a rollback that has succeeded;
* `Transaction.Call.perform_of_completes`, `Transaction.Call.active_of_not_completes` — what one
  call does to the state;
* `Transaction.run_of_completes`, `Transaction.active_of_not_completes` — what a run does to it;
* `Transaction.completion_is_final` — which runs leave a transaction open, and what is left of one
  that has ended.
-/

namespace EntityStore

variable {σ : Type} {c : Client} {v : Service σ} {s : Schema}

/-- A transaction begins open, and nothing is staged in it. -/
theorem Client.begin_eq_ok {mode : TransactionMode} {previous : Option Bytes} {x : Session σ}
    {t : Transaction} (h : (c.begin v mode previous x).1 = .ok t) :
    t.state = .active ∧ t.staged = [] := by
  rw [Client.begin, Action.bind_apply, Action.ofOutcome_apply] at h
  cases hoptions : mode.options previous with
  | error e =>
    rw [hoptions] at h
    cases h
  | ok options =>
    simp only [hoptions, Action.bind_apply] at h
    split at h
    · obtain rfl := Except.ok.inj h
      exact ⟨rfl, rfl⟩
    · cases h

namespace Transaction

variable {t : Transaction} {x : Session σ} {state : TransactionState}

namespace Call

/-- A call that ends its transaction in a state, and has succeeded. -/
def Completes (state : TransactionState) (e : Call × Outcome Reply) : Prop :=
  e.1.ending = some state ∧ ∃ r, e.2 = .ok r

theorem ending_ne_active {call : Call} (h : call.ending = some state) : state ≠ .active := by
  rintro rfl
  cases call <;> cases h

/-! ### One call -/

/-- A call that completes its transaction leaves nothing of it but its state. -/
theorem perform_of_completes (call : Call) (h : t.state = .active)
    (hcompletes : Completes state (call, (call.perform c v s (t, x)).1)) :
    (call.perform c v s (t, x)).2.1 = ⟨t.id, state, []⟩ := by
  obtain ⟨hending, r, hr⟩ := hcompletes
  have heffect := call.perform_of_active (c := c) (v := v) (s := s) (x := x) h
  dsimp only at hending hr
  rw [hr] at heffect
  generalize (call.perform c v s (t, x)).2.1 = after at heffect
  cases heffect with
  | stays _ hfails =>
    obtain ⟨e, he⟩ := hfails (by rw [hending]; exact nofun)
    cases he
  | ends state' _ hends =>
    obtain rfl : state' = state := Option.some.inj (hends.symm.trans hending)
    rfl

/-- Every other call leaves its transaction open. -/
theorem active_of_not_completes (call : Call) (h : t.state = .active)
    (hopen : ∀ state, ¬ Completes state (call, (call.perform c v s (t, x)).1)) :
    (call.perform c v s (t, x)).2.1.state = .active ∧
      (call.perform c v s (t, x)).2.1.id = t.id := by
  have heffect := call.perform_of_active (c := c) (v := v) (s := s) (x := x) h
  generalize (call.perform c v s (t, x)).1 = r at hopen heffect
  generalize (call.perform c v s (t, x)).2.1 = after at heffect
  cases heffect with
  | stays => exact ⟨h, rfl⟩
  | ends state r hends => exact absurd ⟨hends, r, rfl⟩ (hopen state)

end Call

/-! ### Runs -/

/-- Nothing that is asked of a transaction that has ended succeeds. -/
theorem history_of_ended (h : t.state ≠ .active) (calls : List Call) :
    history c v s calls (t, x) = calls.map fun call => (call, .error (t.ended call.name)) := by
  induction calls with
  | nil => rfl
  | cons call rest ih => rw [history, Call.perform_of_ended call h, ih, List.map_cons]

/-- **A completion is final.** The induction is on the calls: what completes the transaction is the
first call, and the others are refused, or the first call leaves it open for the others. -/
theorem run_of_completes (calls : List Call) : ∀ (t : Transaction) (x : Session σ),
    t.state = .active → (∃ e ∈ history c v s calls (t, x), Call.Completes state e) →
      (run c v s calls (t, x)).1 = ⟨t.id, state, []⟩ := by
  induction calls with
  | nil =>
    rintro t x - ⟨e, he, -⟩
    cases he
  | cons call rest ih =>
    rintro t x h ⟨e, he, hcompletes⟩
    rw [run_cons]
    rw [history] at he
    by_cases hfirst : ∃ state, Call.Completes state (call, (call.perform c v s (t, x)).1)
    · obtain ⟨state', hstate'⟩ := hfirst
      have hended := Call.ending_ne_active hstate'.1
      have hafter := call.perform_of_completes h hstate'
      cases hnext : (call.perform c v s (t, x)).2 with
      | mk t' x' =>
        rw [hnext] at hafter he
        obtain rfl : t' = ⟨t.id, state', []⟩ := hafter
        rw [run_of_ended hended]
        rcases List.mem_cons.mp he with rfl | hrest
        · obtain rfl : state' = state := Option.some.inj (hstate'.1.symm.trans hcompletes.1)
          rfl
        · rw [history_of_ended hended] at hrest
          obtain ⟨later, -, rfl⟩ := List.mem_map.mp hrest
          obtain ⟨-, r, hr⟩ := hcompletes
          cases hr
    · obtain ⟨hactive, hid⟩ := call.active_of_not_completes h (not_exists.mp hfirst)
      cases hnext : (call.perform c v s (t, x)).2 with
      | mk t' x' =>
        rw [hnext] at hactive hid he
        rcases List.mem_cons.mp he with rfl | hrest
        · exact absurd ⟨state, hcompletes⟩ hfirst
        · rw [ih t' x' hactive ⟨e, hrest, hcompletes⟩, hid]

/-- Without a completion a transaction stays open. -/
theorem active_of_not_completes (calls : List Call) : ∀ (t : Transaction) (x : Session σ),
    t.state = .active → (∀ e ∈ history c v s calls (t, x), ∀ state, ¬ Call.Completes state e) →
      (run c v s calls (t, x)).1.state = .active := by
  induction calls with
  | nil =>
    intro t x h _
    exact h
  | cons call rest ih =>
    intro t x h hopen
    rw [history, List.forall_mem_cons] at hopen
    obtain ⟨hfirst, hrest⟩ := hopen
    exact ih _ _ (call.active_of_not_completes h hfirst).1 hrest

/-- **Completion is the only way out of a transaction, and there is no way back.** After any calls,
a transaction that was begun is open exactly if none of them was a commit or a rollback that
succeeded. Once one was, the transaction has the state that belongs to it and no mutations, whatever
is called later, and every further call is refused with this state and the identifier of the
transaction. A refused call changes neither the transaction nor the session, so no token is asked
for and nothing is sent. -/
theorem completion_is_final {mode : TransactionMode} {previous : Option Bytes} {x₀ : Session σ}
    (hbegun : (c.begin v mode previous x₀).1 = .ok t) (calls : List Call) :
    ((run c v s calls (t, x)).1.state = .active ↔
      ∀ e ∈ history c v s calls (t, x), ∀ state, ¬ Call.Completes state e) ∧
    ∀ state, (∃ e ∈ history c v s calls (t, x), Call.Completes state e) →
      state ≠ .active ∧ (run c v s calls (t, x)).1 = ⟨t.id, state, []⟩ ∧
      ∀ later, run c v s (calls ++ later) (t, x) = run c v s calls (t, x) ∧
        ∀ call : Call, call.perform c v s (run c v s (calls ++ later) (t, x)) =
          (.error (.failure (.transaction
            ("Cannot " ++ call.name ++ ": transaction is " ++ state.name)
            (some t.id) (some state.name))), run c v s calls (t, x)) := by
  have h : t.state = .active := (Client.begin_eq_ok hbegun).1
  have hfinal (state : TransactionState)
      (hcompletes : ∃ e ∈ history c v s calls (t, x), Call.Completes state e) :
      state ≠ .active ∧ (run c v s calls (t, x)).1 = ⟨t.id, state, []⟩ := by
    obtain ⟨e, he, hcompletes⟩ := hcompletes
    exact ⟨Call.ending_ne_active hcompletes.1, run_of_completes calls t x h ⟨e, he, hcompletes⟩⟩
  refine ⟨⟨?_, active_of_not_completes calls t x h⟩, ?_⟩
  · intro hactive e he state hcompletes
    obtain ⟨hended, hrun⟩ := hfinal state ⟨e, he, hcompletes⟩
    rw [hrun] at hactive
    exact hended hactive
  · intro state hcompletes
    obtain ⟨hended, hrun⟩ := hfinal state hcompletes
    refine ⟨hended, hrun, ?_⟩
    cases hafter : run c v s calls (t, x) with
    | mk t' y =>
      rw [hafter] at hrun
      obtain rfl : t' = ⟨t.id, state, []⟩ := hrun
      intro later
      rw [run_append, hafter, run_of_ended hended]
      exact ⟨rfl, fun call => call.perform_of_ended hended⟩

/-! ### A rollback after a commit that fails -/

/-- A session in which a transaction is begun, its commit is refused and its rollback is not. -/
def withdrawal : Session Script :=
  .playing [⟨.beginTransaction, .ok [1]⟩, ⟨.commit, .error (.backend "aborted")⟩,
    ⟨.rollback, .ok ()⟩]

/-- The transaction that is begun in it, and the session from then on. -/
def withdrawn : Transaction × Session Script :=
  (⟨[1], .active, []⟩, ((Client.ofProject "p").begin .playing .default none withdrawal).2)

/-- A commit that fails leaves the transaction open, a rollback that succeeds ends it, and then even
the deletion of nothing is refused. -/
theorem completion_is_final_withdrawal :
    (run (.ofProject "p") .playing [] [.deleteAll [], .commit] withdrawn).1.state = .active ∧
    (run (.ofProject "p") .playing [] [.commit, .rollback] withdrawn).1 = ⟨[1], .rolledBack, []⟩ ∧
    (Call.deleteAll []).perform (.ofProject "p") .playing []
        (run (.ofProject "p") .playing [] [.commit, .rollback, .commit] withdrawn) =
      (.error (.failure (.transaction "Cannot delete: transaction is rolled_back" (some [1])
        (some "rolled_back"))), run (.ofProject "p") .playing [] [.commit, .rollback] withdrawn) := by
  have hbegun : ((Client.ofProject "p").begin .playing .default none withdrawal).1 =
      .ok ⟨[1], .active, []⟩ := rfl
  have hrefused : (Call.commit.perform (.ofProject "p") .playing []
      ((Call.deleteAll []).perform (.ofProject "p") .playing [] withdrawn).2).1 =
        .error (.backend "aborted") := rfl
  have hrolledBack : (.rollback, .ok .done) ∈
      history (.ofProject "p") .playing [] [.commit, .rollback] withdrawn :=
    List.mem_cons_of_mem _ List.mem_cons_self
  constructor
  · refine (completion_is_final hbegun [.deleteAll [], .commit]).1.mpr ?_
    simp only [history, List.forall_mem_cons]
    refine ⟨?_, ?_, fun _ h => absurd h List.not_mem_nil⟩
    · rintro state ⟨hending, -⟩
      cases hending
    · rintro state ⟨-, r, hr⟩
      exact absurd (hr.symm.trans hrefused) nofun
  · obtain ⟨-, hafter, hlater⟩ := (completion_is_final (s := []) (x := withdrawn.2) hbegun
      [.commit, .rollback]).2 .rolledBack ⟨_, hrolledBack, rfl, .done, rfl⟩
    exact ⟨hafter, (hlater [.commit]).2 (.deleteAll [])⟩

end Transaction

end EntityStore
