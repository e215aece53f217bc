import EntityStore.Proofs.Operation

/-!
# Operations one after the other

A run is any sequence of operations. Its trace has every operation with the activity that it finds,
and from the trace can be read which transactions have been begun, and what is staged in them.

* `Activity.run`, `Activity.trace` — operations one after the other;
* `Activity.idsIn`, `Activity.stagedIn` — the transactions that a trace has begun, and what it has
  staged in each of them;
* `Activity.Recorded.perform`, `Activity.recorded_run` — the transactions after a run are those of
  its trace;
* `Activity.exists_sender` — every request of a run is one of its operations.
-/

namespace EntityStore.Activity

variable {σ : Type} {c : Client} {v : Service σ} {s : Schema} {x : Activity σ}

/-- The activity after operations. An operation that fails does not keep the others from being
performed. -/
def run (c : Client) (v : Service σ) (s : Schema) (ops : List Operation) (x : Activity σ) :
    Activity σ :=
  ops.foldl (fun x op => (perform c v s op x).2) x

/-- Operations, each with the activity that it finds. -/
def trace (c : Client) (v : Service σ) (s : Schema) :
    List Operation → Activity σ → List (Operation × Activity σ)
  | [], _ => []
  | op :: rest, x => (op, x) :: trace c v s rest (perform c v s op x).2

/-- The identifiers that the service has given to the transactions that a trace has begun. -/
def idsIn (c : Client) (v : Service σ) (s : Schema) (done : List (Operation × Activity σ)) :
    List Bytes :=
  done.filterMap fun e => (e.1.begunBy (perform c v s e.1 e.2).1).map (·.id)

/-- The mutations that a trace has staged in the transaction with a number: those of the operations
that name it and have found it. -/
def stagedIn (c : Client) (s : Schema) (i : Nat) (done : List (Operation × Activity σ)) :
    List Mutation :=
  (done.filter fun e => i < e.2.begun.length).flatMap fun e => e.1.stages c s i

theorem run_cons (op : Operation) (rest : List Operation) (x : Activity σ) :
    run c v s (op :: rest) x = run c v s rest (perform c v s op x).2 := rfl

theorem mem_of_mem_trace (ops : List Operation) :
    ∀ (x : Activity σ) (e : Operation × Activity σ), e ∈ trace c v s ops x → e.1 ∈ ops := by
  induction ops with
  | nil =>
    intro x e he
    cases he
  | cons op rest ih =>
    intro x e he
    rcases List.mem_cons.mp he with rfl | hrest
    · exact List.mem_cons_self
    · exact List.mem_cons_of_mem op (ih _ e hrest)

/-- The transactions of an activity are those that a trace has begun, and what is staged in those
that are open is what the trace has staged in them. -/
structure Recorded (c : Client) (v : Service σ) (s : Schema) (done : List (Operation × Activity σ))
    (x : Activity σ) : Prop where
  ids : x.begun.map (·.id) = idsIn c v s done
  staged : ∀ i t, x.begun[i]? = some t → t.state = .active → t.staged = stagedIn c s i done
  length_le : ∀ e ∈ done, e.2.begun.length ≤ x.begun.length

theorem stagedIn_append (i : Nat) (done : List (Operation × Activity σ)) (op : Operation)
    (x : Activity σ) :
    stagedIn c s i (done ++ [(op, x)]) =
      stagedIn c s i done ++ if i < x.begun.length then op.stages c s i else [] := by
  rw [stagedIn, stagedIn, List.filter_append, List.flatMap_append]
  by_cases h : i < x.begun.length <;> simp [h]

theorem idsIn_append (done : List (Operation × Activity σ)) (op : Operation) (x : Activity σ) :
    idsIn c v s (done ++ [(op, x)]) = idsIn c v s done ++
      ((op.begunBy (perform c v s op x).1).map (·.id)).toList := by
  rw [idsIn, idsIn, List.filterMap_append]
  cases h : op.begunBy (perform c v s op x).1 <;> simp [h]

namespace Recorded

variable {done : List (Operation × Activity σ)}

/-- Nothing is staged yet in a transaction with a number that no operation has found. -/
theorem stagedIn_new (h : Recorded c v s done x) : stagedIn c s x.begun.length done = [] := by
  have hnone : (done.filter fun e => x.begun.length < e.2.begun.length) = [] := by
    rw [List.filter_eq_nil_iff]
    intro e he
    have hle := h.length_le e he
    simpa using hle
  rw [stagedIn, hnone]
  rfl

/-- No operation finds more transactions than there are afterwards. -/
theorem length_le_append (h : Recorded c v s done x) (op : Operation) {y : Activity σ}
    (hy : x.begun.length ≤ y.begun.length) :
    ∀ e ∈ done ++ [(op, x)], e.2.begun.length ≤ y.begun.length := by
  intro e he
  rcases List.mem_append.mp he with hold | hnew
  · exact Nat.le_trans (h.length_le e hold) hy
  · obtain rfl := List.mem_singleton.mp hnew
    exact hy

/-- An operation on a transaction that has not been begun records nothing. -/
theorem perform_missing (h : Recorded c v s done x) {op : Operation} {i : Nat}
    {call : Transaction.Call} (hcall : op.call? = some (i, call)) (ht : x.begun[i]? = none) :
    Recorded c v s (done ++ [(op, x)]) (Activity.perform c v s op x).2 := by
  have hbegun := begun_of_missing (c := c) (v := v) (s := s) hcall ht
  refine ⟨?_, ?_, h.length_le_append op (Nat.le_of_eq (congrArg List.length hbegun.symm))⟩
  · rw [hbegun, h.ids, idsIn_append, Operation.begunBy_of_call? hcall]
    simp
  · intro j t hj hopen
    rw [hbegun] at hj
    have hne : i ≠ j := by
      rintro rfl
      cases ht.symm.trans hj
    rw [stagedIn_append, Operation.stages_of_call? hcall, if_neg hne, ite_self, List.append_nil]
    exact h.staged j t hj hopen

/-- An operation on a transaction that has been begun adds to what is staged in this one alone. -/
theorem perform_call (h : Recorded c v s done x) {op : Operation} {i : Nat}
    {call : Transaction.Call} (hcall : op.call? = some (i, call)) {t : Transaction}
    (ht : x.begun[i]? = some t) :
    Recorded c v s (done ++ [(op, x)]) (Activity.perform c v s op x).2 := by
  have hbegun := begun_of_call (c := c) (v := v) (s := s) hcall ht
  obtain ⟨hi, hti⟩ := List.getElem?_eq_some_iff.mp ht
  have hids : (x.begun.set i (call.perform c v s (t, x.session)).2.1).map (·.id) =
      x.begun.map (·.id) := by
    refine List.ext_getElem? fun j => ?_
    rw [List.map_set, List.getElem?_set]
    by_cases hij : i = j
    · subst hij
      simp [hi, hti, Transaction.Call.id_perform]
    · rw [if_neg hij]
  refine ⟨?_, ?_, h.length_le_append op (Nat.le_of_eq (by rw [hbegun, List.length_set]))⟩
  · rw [hbegun, hids, h.ids, idsIn_append, Operation.begunBy_of_call? hcall]
    simp
  · intro j t' hj hopen
    rw [hbegun] at hj
    rw [stagedIn_append, Operation.stages_of_call? hcall]
    by_cases hij : i = j
    · subst hij
      rw [List.getElem?_set_self hi] at hj
      obtain rfl := Option.some.inj hj
      obtain ⟨hwas, hstaged⟩ := call.staged_of_open t x.session hopen
      rw [hstaged, if_pos hi, if_pos rfl, h.staged i t ht hwas]
    · rw [List.getElem?_set_ne hij] at hj
      rw [if_neg hij, ite_self, List.append_nil]
      exact h.staged j t' hj hopen

/-- Every other operation leaves the transactions as they are, or begins a new one. -/
theorem perform_other (h : Recorded c v s done x) {op : Operation} (hcall : op.call? = none) :
    Recorded c v s (done ++ [(op, x)]) (Activity.perform c v s op x).2 := by
  obtain ⟨hbegun, hempty⟩ := begun_of_no_call (c := c) (v := v) (s := s) hcall x
  have hlength : x.begun.length ≤ (Activity.perform c v s op x).2.begun.length := by
    rw [hbegun, List.length_append]
    exact Nat.le_add_right _ _
  refine ⟨?_, ?_, h.length_le_append op hlength⟩
  · rw [hbegun, List.map_append, h.ids, idsIn_append]
    cases op.begunBy (Activity.perform c v s op x).1 <;> rfl
  · intro j t hj hopen
    have hstages : op.stages c s j = [] := by
      rw [Operation.stages, hcall]
    rw [stagedIn_append, hstages, ite_self, List.append_nil]
    rw [hbegun] at hj
    by_cases hold : j < x.begun.length
    · rw [List.getElem?_append_left hold] at hj
      exact h.staged j t hj hopen
    · -- the transaction that has just been begun
      rw [List.getElem?_append_right (Nat.le_of_not_lt hold)] at hj
      cases hnew : op.begunBy (Activity.perform c v s op x).1 with
      | none =>
        rw [hnew] at hj
        cases hj
      | some t' =>
        rw [hnew] at hj
        obtain ⟨hlast, hsame⟩ := List.getElem?_eq_some_iff.mp hj
        have hj' : j = x.begun.length := by
          simp at hlast
          omega
        have ht : t' = t := by simpa using hsame
        rw [← ht, hempty t' hnew, hj', h.stagedIn_new]

/-- **What one operation records.** -/
theorem perform (h : Recorded c v s done x) (op : Operation) :
    Recorded c v s (done ++ [(op, x)]) (perform c v s op x).2 := by
  cases hcall : op.call? with
  | none => exact h.perform_other hcall
  | some named =>
    obtain ⟨i, call⟩ := named
    cases ht : x.begun[i]? with
    | none => exact h.perform_missing hcall ht
    | some t => exact h.perform_call hcall ht

theorem run (ops : List Operation) :
    ∀ (done : List (Operation × Activity σ)) (x : Activity σ), Recorded c v s done x →
      Recorded c v s (done ++ trace c v s ops x) (run c v s ops x) := by
  induction ops with
  | nil =>
    intro done x h
    rw [trace, List.append_nil]
    exact h
  | cons op rest ih =>
    intro done x h
    have hrest := ih _ _ (h.perform op)
    rw [List.append_assoc] at hrest
    exact hrest

end Recorded

/-- **The transactions after a run are those of its trace.** -/
theorem recorded_run (ops : List Operation) (world : σ) :
    Recorded c v s (trace c v s ops (.start world)) (run c v s ops (.start world)) := by
  have hstart : Recorded c v s [] (Activity.start world) := by
    refine ⟨rfl, ?_, ?_⟩
    · intro i t ht
      cases ht
    · intro e he
      cases he
  exact Recorded.run ops [] _ hstart

/-- **Every request of a run is one that an operation of it can send.** -/
theorem exists_sender (ops : List Operation) :
    ∀ (x : Activity σ) (q : Wire.AnyRequest), q ∈ (run c v s ops x).session.requests →
      q ∈ x.session.requests ∨ ∃ before op after, ops = before ++ op :: after ∧
        op.Asks c s (run c v s before x).begun q := by
  induction ops with
  | nil =>
    intro x q hq
    exact .inl hq
  | cons op rest ih =>
    intro x q hq
    rw [run_cons] at hq
    rcases ih _ q hq with hearlier | ⟨before, op', after, hrest, hasks⟩
    · obtain ⟨sent, hsent, hall⟩ := requests_perform (c := c) (v := v) (s := s) op x
      rw [hsent] at hearlier
      rcases List.mem_append.mp hearlier with hold | hnew
      · exact .inl hold
      · exact .inr ⟨[], op, rest, rfl, hall q hnew⟩
    · refine .inr ⟨op :: before, op', after, ?_, hasks⟩
      rw [hrest, List.cons_append]

end EntityStore.Activity
