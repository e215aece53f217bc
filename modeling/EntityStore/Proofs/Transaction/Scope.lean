import EntityStore.Proofs.Activity

/-!
# Requests and their transactions

An application may work with any number of transactions and outside of them in turn. Each request
that is sent for a transaction names this one, and each commit applies what has been staged in it.
What is sent outside of transactions names none, unless a transaction that is begun repeats an
earlier one.

* `Wire.AnyRequest.transaction?` — the transaction that a request names;
* `Wire.AnyRequest.IsWithin`, `Wire.AnyRequest.IsOutside` — requests within a transaction and
  outside of all;
* `Transaction.Call.isWithin_of_asks`, `Operation.AsksOutside.isOutside` — what a call of a
  transaction and an operation outside of all can ask for;
* `Activity.requests_name_their_transaction` — what the operations of any run send.
-/

namespace EntityStore

variable {σ : Type} {c : Client} {v : Service σ} {s : Schema}

/-! ### Requests -/

namespace Wire

/-- The transaction that a read happens in, if it happens in one. -/
def ReadOptions.transaction? : ReadOptions → Option Bytes
  | transaction id => some id
  | strong | eventual => none

/-- The transaction that a new one repeats. An empty identifier is none. -/
def TransactionOptions.previous? : TransactionOptions → Option Bytes
  | readOnly => none
  | readWrite previous => if previous.isEmpty then none else some previous

namespace AnyRequest

/-- The identifier of a transaction that a request carries, if it carries one. -/
def transaction? : AnyRequest → Option Bytes
  | ⟨.lookup, r⟩ => (LookupRequest.readOptions r).bind (·.transaction?)
  | ⟨.runQuery, r⟩ => (RunQueryRequest.readOptions r).transaction?
  | ⟨.beginTransaction, r⟩ => (BeginTransactionRequest.options r).bind (·.previous?)
  | ⟨.commit, r⟩ => CommitRequest.transaction r
  | ⟨.rollback, r⟩ => some (RollbackRequest.transaction r)

/-- A request within the transaction with an identifier and staged mutations. -/
def IsWithin (id : Bytes) (staged : List EntityStore.Mutation) : AnyRequest → Prop
  | ⟨.lookup, r⟩ => LookupRequest.readOptions r = some (.transaction id)
  | ⟨.runQuery, r⟩ => RunQueryRequest.readOptions r = .transaction id
  | ⟨.beginTransaction, _⟩ => False
  | ⟨.commit, r⟩ => CommitRequest.transaction r = some id ∧
      CommitRequest.mode r = .transactional ∧
      CommitRequest.mutations r = staged.map (·.message)
  | ⟨.rollback, r⟩ => RollbackRequest.transaction r = id

/-- A request that an operation sends outside of transactions. Which results a query may miss is
what it asks for itself. -/
def IsOutside (op : Operation) : AnyRequest → Prop
  | ⟨.lookup, r⟩ => LookupRequest.readOptions r = none
  | ⟨.runQuery, r⟩ => ∃ q, op = .query none q ∧
      RunQueryRequest.readOptions r = if q.isEventual then .eventual else .strong
  | ⟨.beginTransaction, _⟩ => ∃ mode previous, op = .begin mode previous
  | ⟨.commit, r⟩ => CommitRequest.mode r = .nonTransactional
  | ⟨.rollback, _⟩ => False

end AnyRequest

end Wire

/-! ### What can be asked for -/

/-- A call asks for nothing outside of its transaction. -/
theorem Transaction.Call.isWithin_of_asks {call : Transaction.Call} {t : Transaction}
    {q : Wire.AnyRequest} (h : call.Asks c t q) : q.IsWithin t.id t.staged := by
  cases call with
  | get k into | getAll ks into =>
    obtain ⟨keys, rfl⟩ := h
    rfl
  | query wanted =>
    obtain ⟨compiled, cursor, -, rfl⟩ := h
    rfl
  | commit =>
    obtain rfl : q = _ := h
    exact ⟨rfl, rfl, rfl⟩
  | rollback =>
    obtain rfl : q = _ := h
    rfl
  | put _ | putAll _ | delete _ | deleteAll _ => exact False.elim h

/-- The options of a new transaction name an earlier one only if it is to be repeated. -/
theorem TransactionMode.previous_of_options {mode : TransactionMode} {previous : Option Bytes}
    {options : Option Wire.TransactionOptions} {id : Bytes}
    (h : mode.options previous = .ok options) (hid : options.bind (·.previous?) = some id) :
    mode = .readWrite ∧ previous = some id := by
  cases mode with
  | readWrite =>
    obtain rfl := Except.ok.inj h
    cases previous with
    | none => cases hid
    | some id' =>
      refine ⟨rfl, ?_⟩
      have hnamed : (if id'.isEmpty then none else some id') = some id := hid
      by_cases hempty : id'.isEmpty = true
      · rw [if_pos hempty] at hnamed
        cases hnamed
      · rw [if_neg hempty] at hnamed
        exact hnamed
  | default | readOnly =>
    cases previous with
    | none =>
      obtain rfl := Except.ok.inj h
      cases hid
    | some id' => cases h

/-- Outside of transactions, nothing is asked for within one. -/
theorem Operation.AsksOutside.isOutside {op : Operation} {q : Wire.AnyRequest}
    (h : op.AsksOutside c s q) :
    q.IsOutside op ∧ ∀ id, q.transaction? = some id → op = .begin .readWrite (some id) := by
  cases h with
  | lookup h =>
    obtain ⟨keys, rfl⟩ := h
    exact ⟨rfl, nofun⟩
  | @page wanted _ h =>
    obtain ⟨compiled, cursor, -, rfl⟩ := h
    refine ⟨⟨wanted, rfl, rfl⟩, ?_⟩
    intro id hid
    have hchosen : (Wire.ReadOptions.choose none wanted.isEventual).transaction? = some id := hid
    cases hwanted : wanted.isEventual <;> rw [hwanted] at hchosen <;> cases hchosen
  | @begin mode previous _ hoptions =>
    refine ⟨⟨mode, previous, rfl⟩, ?_⟩
    intro id hid
    obtain ⟨rfl, rfl⟩ := TransactionMode.previous_of_options hoptions hid
    rfl
  | writes _ h | deletions _ h =>
    obtain rfl : q = _ := h
    exact ⟨rfl, nofun⟩

/-! ### Runs -/

namespace Activity

/-- **Every request names the transaction it is sent for, and no other.** After any operations
against any service, the transactions have the identifiers that the service gave them, in their
order. If the next operation names one of them, all that it sends is within this transaction: every
lookup and every page of a query reads in it, and a commit applies the mutations that the operations
so far have staged in it, and nothing else. If it names none, all that it sends is outside of
transactions, and carries an identifier only where a new transaction is to repeat the one with this
identifier. -/
theorem requests_name_their_transaction (before : List Operation) (op : Operation) (world : σ) :
    (run c v s before (.start world)).begun.map (·.id) =
      idsIn c v s (trace c v s before (.start world)) ∧
    ∃ sent : List Wire.AnyRequest,
      (perform c v s op (run c v s before (.start world))).2.session.requests =
        (run c v s before (.start world)).session.requests ++ sent ∧
      (∀ i, op.transaction? = some i → ∀ q ∈ sent, ∃ t,
        (run c v s before (.start world)).begun[i]? = some t ∧
        q.IsWithin t.id (stagedIn c s i (trace c v s before (.start world)))) ∧
      (op.transaction? = none → ∀ q ∈ sent, q.IsOutside op ∧
        ∀ id, q.transaction? = some id → op = .begin .readWrite (some id)) := by
  have hrecorded := recorded_run (c := c) (v := v) (s := s) before world
  obtain ⟨sent, hsent, hall⟩ := requests_perform (c := c) (v := v) (s := s) op
    (run c v s before (.start world))
  refine ⟨hrecorded.ids, sent, hsent, ?_, ?_⟩
  · intro i hi q hq
    obtain ⟨call, t, -, ht, hopen, hasked⟩ := Operation.asks_in_transaction hi (hall q hq)
    refine ⟨t, ht, ?_⟩
    rw [← hrecorded.staged i t ht hopen]
    exact Transaction.Call.isWithin_of_asks hasked
  · intro hnone q hq
    exact (Operation.asks_outside hnone (hall q hq)).isOutside

/-- The operations of two transactions in turn. -/
def interleaved : List Operation :=
  [.connect, .begin .default none, .begin .readOnly none,
    .delete (some 0) (.key (.root none ⟨"File", some (.name "a"), false, false⟩)),
    .delete (some 1) (.key (.root none ⟨"File", some (.name "b"), false, false⟩))]

/-- The outside that begins two transactions and commits one. -/
def beginnings : Script :=
  ⟨0, [⟨.beginTransaction, .ok [1]⟩, ⟨.beginTransaction, .ok [2]⟩, ⟨.commit, .ok ⟨[none]⟩⟩]⟩

/-- The second of two transactions commits what is staged in itself, in one request. -/
theorem requests_name_their_transaction_interleaved :
    ∃ sent : List Wire.AnyRequest,
      (perform (.ofProject "p") .playing [] (.commit 1)
        (run (.ofProject "p") .playing [] interleaved (.start beginnings))).2.session.requests =
          (run (.ofProject "p") .playing [] interleaved
            (.start beginnings)).session.requests ++ sent ∧
      sent.length = 1 ∧ ∀ q ∈ sent, q.IsWithin [2]
        [Mutation.delete "p" (.root none ⟨"File", some (.name "b"), false, false⟩)] := by
  obtain ⟨-, sent, hsent, hwithin, -⟩ := requests_name_their_transaction
    (c := .ofProject "p") (v := .playing) (s := []) interleaved (.commit 1) beginnings
  refine ⟨sent, hsent, ?_, ?_⟩
  · have hlength : 3 = 2 + sent.length := by
      have h := congrArg List.length hsent
      rw [List.length_append] at h
      exact h
    omega
  · intro q hq
    obtain ⟨t, ht, hq⟩ := hwithin 1 rfl q hq
    obtain rfl := Option.some.inj ht
    exact hq

/-- A new transaction that repeats an earlier one names it, so not everything that is sent outside
of transactions is without an identifier. -/
theorem not_requests_unnamed :
    ¬ ∀ (c : Client) (v : Service Script) (s : Schema) (before : List Operation) (op : Operation)
      (world : Script), op.transaction? = none → ∀ sent : List Wire.AnyRequest,
        (perform c v s op (run c v s before (.start world))).2.session.requests =
          (run c v s before (.start world)).session.requests ++ sent →
        ∀ q ∈ sent, q.transaction? = none := by
  intro h
  have hrepeat := h (.ofProject "p") .playing [] [.connect] (.begin .readWrite (some [1]))
    beginnings rfl
    [⟨.beginTransaction, Wire.BeginTransactionRequest.mk "p" (some (.readWrite [1]))⟩] rfl _
    List.mem_cons_self
  cases hrepeat

end Activity

end EntityStore
