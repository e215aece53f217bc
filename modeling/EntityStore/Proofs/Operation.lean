import EntityStore.Proofs.Dispatch
import EntityStore.Proofs.Transaction.Lifecycle

/-!
# What an operation sends and changes

An application works with a client and with the transactions that it has begun. Each operation sends
requests of its own kind, and changes the transaction that it names and no other. Operations on the
connection send nothing.

* `Transaction.Call.Asks`, `Operation.Asks` — the requests that a call or an operation can send;
* `Operation.asks_in_transaction`, `Operation.asks_outside` — those within a transaction and those
  outside of all;
* `Activity.dispatches_perform`, `Activity.connects_perform` — what an operation adds to the record;
* `Activity.requests_perform` — the requests that it sends;
* `Activity.begun_of_call`, `Activity.begun_of_missing`, `Activity.begun_of_no_call` — what it does
  to the transactions.
-/

namespace EntityStore

variable {σ : Type} {c : Client} {v : Service σ} {s : Schema}

/-! ### Calls of one transaction -/

namespace Transaction.Call

/-- The requests that a call of an open transaction can send. -/
def Asks (c : Client) (t : Transaction) : Call → Wire.AnyRequest → Prop
  | get _ _, q | getAll _ _, q => c.AsksLookup (some t.id) q
  | query wanted, q => c.AsksPage (some t.id) wanted q
  | commit, q => c.AsksCommit (some t.id) t.staged q
  | rollback, q => q = ⟨.rollback, Wire.RollbackRequest.mk c.projectId t.id⟩
  | put _, _ | putAll _, _ | delete _, _ | deleteAll _, _ => False

/-- What a call adds to the record of the session: nothing if the transaction has ended. -/
theorem dispatches (call : Call) (t : Transaction) (x : Session σ) :
    Dispatches (fun q => t.state = .active ∧ call.Asks c t q) x
      (call.perform c v s (t, x)).1 (call.perform c v s (t, x)).2.2 := by
  by_cases h : t.state = .active
  · refine Dispatches.mono (P := call.Asks c t) ?_ fun q hq => ⟨h, hq⟩
    cases call with
    | get k into =>
      have hget : (get k into).perform c v s (t, x) =
          (((c.getAll v s (some t.id) [k] into x).1.map List.head?).map .object, t,
            (c.getAll v s (some t.id) [k] into x).2) := by
        rw [perform, Transaction.get]
        show (_ <$> (List.head? <$> Transaction.getAll c v s [k] into)) (t, x) = _
        rw [Action.map_apply, Action.map_apply, getAll_of_active h]
      rw [hget]
      exact ((c.sends_getAll v s _ [k] into x).map _).map _
    | getAll ks into =>
      rw [perform, Action.map_apply, getAll_of_active h]
      exact (c.sends_getAll v s _ ks into x).map _
    | query q =>
      rw [perform, Action.map_apply, query_of_active h]
      exact (c.sends_runQuery v _ q x).map _
    | put n =>
      rw [perform, Action.seqRight_pure_apply, Transaction.put, putAll_of_active h]
      exact .nothing _
    | putAll ns =>
      rw [perform, Action.seqRight_pure_apply, putAll_of_active h]
      exact .nothing _
    | delete k =>
      rw [perform, Action.seqRight_pure_apply, Transaction.delete, deleteAll_of_active h]
      exact .nothing _
    | deleteAll ks =>
      rw [perform, Action.seqRight_pure_apply, deleteAll_of_active h]
      exact .nothing _
    | commit =>
      have hsent := c.sends_commit v (some t.id) t.staged x
      rw [perform, Action.map_apply, commit_of_active h]
      cases hstep : c.commit v (some t.id) t.staged x with
      | mk r y =>
        rw [hstep] at hsent
        cases r with
        | error e => exact hsent.error
        | ok response =>
          dsimp only
          cases Mutation.keys response (t.staged.map (·.kind)) with
          | error e => exact hsent.trans (.nothing _)
          | ok keys => exact hsent.trans (.nothing _)
    | rollback =>
      have hcall : (Transport.call v .rollback ⟨c.projectId, t.id⟩).Sends (rollback.Asks c t) :=
        .call v rfl
      have hsent := hcall x
      rw [perform, Action.seqRight_pure_apply, rollback_of_active h]
      cases hstep : Transport.call v .rollback ⟨c.projectId, t.id⟩ x with
      | mk r y =>
        rw [hstep] at hsent
        cases r with
        | error e => exact hsent.error
        | ok a => exact hsent.trans (.nothing _)
  · rw [perform_of_ended call h]
    exact .nothing _

/-- A call never changes the identifier of its transaction. -/
theorem id_perform (call : Call) (t : Transaction) (x : Session σ) :
    (call.perform c v s (t, x)).2.1.id = t.id := by
  by_cases h : t.state = .active
  · have heffect := call.perform_of_active (c := c) (v := v) (s := s) (x := x) h
    generalize (call.perform c v s (t, x)).1 = r at heffect
    generalize (call.perform c v s (t, x)).2.1 = after at heffect
    cases heffect <;> rfl
  · rw [perform_of_ended call h]

/-- A transaction that is open after a call was open before, and has staged what the call has for
it. -/
theorem staged_of_open (call : Call) (t : Transaction) (x : Session σ)
    (hopen : (call.perform c v s (t, x)).2.1.state = .active) :
    t.state = .active ∧
      (call.perform c v s (t, x)).2.1.staged = t.staged ++ call.stages c s := by
  by_cases h : t.state = .active
  · refine ⟨h, ?_⟩
    have heffect := call.perform_of_active (c := c) (v := v) (s := s) (x := x) h
    generalize (call.perform c v s (t, x)).1 = r at heffect
    generalize (call.perform c v s (t, x)).2.1 = after at heffect hopen
    cases heffect with
    | stays => rfl
    | ends state r hends => exact absurd hopen (ending_ne_active hends)
  · rw [perform_of_ended call h] at hopen
    exact absurd hopen h

end Transaction.Call

/-! ### Operations -/

namespace Operation

/-- An operation on the connection alone. -/
def isConnection : Operation → Bool
  | .connect | .close | .openChannel | .closeChannel => true
  | _ => false

/-- The transaction that an operation names, by its number. -/
def transaction? : Operation → Option Nat
  | .get i _ _ | .getAll i _ _ | .query i _ | .put i _ | .putAll i _ | .delete i _
  | .deleteAll i _ => i
  | .commit i | .rollback i | .inspect i => some i
  | .connect | .close | .openChannel | .closeChannel | .begin _ _ => none

/-- The call that an operation makes of a transaction, with the number of the transaction. -/
def call? : Operation → Option (Nat × Transaction.Call)
  | .get (some i) k into => some (i, .get k into)
  | .getAll (some i) ks into => some (i, .getAll ks into)
  | .query (some i) q => some (i, .query q)
  | .put (some i) n => some (i, .put n)
  | .putAll (some i) ns => some (i, .putAll ns)
  | .delete (some i) k => some (i, .delete k)
  | .deleteAll (some i) ks => some (i, .deleteAll ks)
  | .commit i => some (i, .commit)
  | .rollback i => some (i, .rollback)
  | _ => none

theorem eq_operation {op : Operation} {i : Nat} {call : Transaction.Call}
    (h : op.call? = some (i, call)) : op = call.operation i := by
  unfold call? at h
  split at h
  case h_10 => cases h
  all_goals
    cases h
    rfl

theorem transaction?_of_call? {op : Operation} {i : Nat} {call : Transaction.Call}
    (h : op.call? = some (i, call)) : op.transaction? = some i := by
  rw [eq_operation h]
  cases call <;> rfl

/-- The requests that an operation can send, by the transactions that have been begun. -/
def Asks (c : Client) (s : Schema) (begun : List Transaction) (op : Operation)
    (q : Wire.AnyRequest) : Prop :=
  match op with
  | .begin mode previous => ∃ options, mode.options previous = .ok options ∧
      q = ⟨.beginTransaction, Wire.BeginTransactionRequest.mk c.projectId options⟩
  | .get none _ _ | .getAll none _ _ => c.AsksLookup none q
  | .query none wanted => c.AsksPage none wanted q
  | .put none n => ∃ ms, c.compilePuts s false [n] = .ok ms ∧ c.AsksCommit none ms q
  | .putAll none ns => ∃ ms, c.compilePuts s false ns = .ok ms ∧ c.AsksCommit none ms q
  | .delete none k => ∃ ms, [k].mapM c.compileDelete = .ok ms ∧ c.AsksCommit none ms q
  | .deleteAll none ks => ∃ ms, ks.mapM c.compileDelete = .ok ms ∧ c.AsksCommit none ms q
  | op => ∃ i call t, op.call? = some (i, call) ∧ begun[i]? = some t ∧ t.state = .active ∧
      call.Asks c t q

theorem asks_operation {begun : List Transaction} {i : Nat} {call : Transaction.Call}
    {t : Transaction} (ht : begun[i]? = some t) {q : Wire.AnyRequest}
    (hq : t.state = .active ∧ call.Asks c t q) : (call.operation i).Asks c s begun q := by
  cases call <;> exact ⟨i, _, t, rfl, ht, hq⟩

/-- What is asked in a transaction is asked by a call of this transaction, which is open. -/
theorem asks_in_transaction {begun : List Transaction} {op : Operation} {i : Nat}
    {q : Wire.AnyRequest} (hi : op.transaction? = some i) (hq : op.Asks c s begun q) :
    ∃ call t, op.call? = some (i, call) ∧ begun[i]? = some t ∧ t.state = .active ∧
      call.Asks c t q := by
  have hcall : ∃ j call t, op.call? = some (j, call) ∧ begun[j]? = some t ∧ t.state = .active ∧
      call.Asks c t q := by
    cases op with
    | connect | close | openChannel | closeChannel | begin _ _ => cases hi
    | commit _ | rollback _ | inspect _ => exact hq
    | get j _ _ | getAll j _ _ | query j _ | put j _ | putAll j _ | delete j _ | deleteAll j _ =>
      cases j with
      | none => cases hi
      | some j => exact hq
  obtain ⟨j, call, t, hop, hasked⟩ := hcall
  obtain rfl : i = j := Option.some.inj (hi.symm.trans (transaction?_of_call? hop))
  exact ⟨call, t, hop, hasked⟩

/-- The objects that an operation is given to write. -/
def written : Operation → List Native
  | .put _ n => [n]
  | .putAll _ ns => ns
  | _ => []

/-- The requests that an operation can send outside of transactions: for entities, for a page of its
query, for a new transaction, and to commit its own writes or deletions. -/
inductive AsksOutside (c : Client) (s : Schema) : Operation → Wire.AnyRequest → Prop
  | lookup {op : Operation} {q : Wire.AnyRequest} (h : c.AsksLookup none q) : AsksOutside c s op q
  | page {wanted : Query} {q : Wire.AnyRequest} (h : c.AsksPage none wanted q) :
      AsksOutside c s (.query none wanted) q
  | begin {mode : TransactionMode} {previous : Option Bytes}
      {options : Option Wire.TransactionOptions} (h : mode.options previous = .ok options) :
      AsksOutside c s (.begin mode previous)
        ⟨.beginTransaction, Wire.BeginTransactionRequest.mk c.projectId options⟩
  | writes {op : Operation} {ms : List Mutation} {q : Wire.AnyRequest}
      (hms : c.compilePuts s false op.written = .ok ms) (h : c.AsksCommit none ms q) :
      AsksOutside c s op q
  | deletions {op : Operation} {keys : List KeyInput} {ms : List Mutation} {q : Wire.AnyRequest}
      (hms : keys.mapM c.compileDelete = .ok ms) (h : c.AsksCommit none ms q) :
      AsksOutside c s op q

/-- What is asked by an operation that names no transaction is asked outside of all. -/
theorem asks_outside {begun : List Transaction} {op : Operation} {q : Wire.AnyRequest}
    (hop : op.transaction? = none) (h : op.Asks c s begun q) : op.AsksOutside c s q := by
  cases op with
  | connect | close | openChannel | closeChannel =>
    obtain ⟨i, call, t, hcall, -⟩ := h
    cases hcall
  | begin mode previous =>
    obtain ⟨options, hoptions, rfl⟩ := h
    exact .begin hoptions
  | get i _ _ | getAll i _ _ =>
    obtain rfl : i = none := hop
    exact .lookup h
  | query i wanted =>
    obtain rfl : i = none := hop
    exact .page h
  | put i _ | putAll i _ =>
    obtain rfl : i = none := hop
    obtain ⟨ms, hms, hq⟩ := h
    exact .writes hms hq
  | delete i _ | deleteAll i _ =>
    obtain rfl : i = none := hop
    obtain ⟨ms, hms, hq⟩ := h
    exact .deletions hms hq
  | commit _ | rollback _ | inspect _ => cases hop

/-- The transaction that an operation has begun, by what came of it. -/
def begunBy : Operation → Outcome Reply → Option Transaction
  | .begin _ _, .ok (.transaction t) => some t
  | _, _ => none

theorem begunBy_of_call? {op : Operation} {i : Nat} {call : Transaction.Call}
    (h : op.call? = some (i, call)) (r : Outcome Reply) : op.begunBy r = none := by
  rw [eq_operation h]
  cases call <;> rfl

/-- The mutations that an operation stages in the transaction with a number. -/
def stages (c : Client) (s : Schema) (i : Nat) (op : Operation) : List Mutation :=
  match op.call? with
  | some (j, call) => if j = i then call.stages c s else []
  | none => []

theorem stages_of_call? {op : Operation} {j : Nat} {call : Transaction.Call}
    (h : op.call? = some (j, call)) (i : Nat) :
    op.stages c s i = if j = i then call.stages c s else [] := by
  rw [stages, h]

end Operation

/-! ### The connection -/

/-- An event of the connection alone. -/
def Event.IsConnection : Event → Prop
  | .opened _ _ _ | .closed => True
  | .asked _ | .sent _ _ _ => False

/-- Whatever the session, a step adds nothing to its record but events of the connection. -/
def Action.Connects {α : Type} (a : Action (Session σ) α) : Prop :=
  ∀ s, ∃ new, (a s).2.events = s.events ++ new ∧ ∀ e ∈ new, e.IsConnection

namespace Action.Connects

variable {α β : Type} {a b : Action (Session σ) α}

theorem silent (h : ∀ s, (a s).2.events = s.events) : a.Connects := by
  intro s
  refine ⟨[], ?_, ?_⟩
  · simp [h]
  · simp

theorem record {e : Event} (h : e.IsConnection) :
    (Action.record e : Action (Session σ) Unit).Connects := by
  intro s
  refine ⟨[e], rfl, ?_⟩
  simpa using h

theorem bind {f : α → Action (Session σ) β} (ha : a.Connects) (hf : ∀ x, (f x).Connects) :
    (a >>= f).Connects := by
  intro s
  obtain ⟨new, hnew, hall⟩ := ha s
  rw [Action.bind_apply]
  cases hstep : a s with
  | mk r t =>
    rw [hstep] at hnew
    cases r with
    | error e => exact ⟨new, hnew, hall⟩
    | ok x =>
      obtain ⟨more, hmore, hrest⟩ := hf x t
      refine ⟨new ++ more, ?_, ?_⟩
      · show (f x t).2.events = _
        rw [hmore, hnew, List.append_assoc]
      · intro e he
        rcases List.mem_append.mp he with hleft | hright
        · exact hall e hleft
        · exact hrest e hright

theorem ite {p : Prop} [Decidable p] (ha : a.Connects) (hb : b.Connects) :
    (if p then a else b).Connects := by
  by_cases hp : p
  · rw [if_pos hp]
    exact ha
  · rw [if_neg hp]
    exact hb

end Action.Connects

theorem Transport.connects_openChannel (t : Transport) (v : Service σ) :
    (t.openChannel v).Connects := by
  refine .bind (.silent fun _ => rfl) fun s => .ite (.silent fun _ => rfl) ?_
  refine .bind (.silent fun _ => rfl) fun _ => .bind (.silent fun _ => rfl) fun _ => ?_
  refine .bind (.record trivial) fun _ => .bind (.silent fun _ => rfl) fun _ => ?_
  exact .silent fun _ => rfl

theorem Transport.connects_closeChannel (v : Service σ) : (closeChannel v).Connects := by
  refine .bind (.silent fun _ => rfl) fun s => .ite ?_ (.silent fun _ => rfl)
  refine .bind (.silent fun _ => rfl) fun _ => .bind (.record trivial) fun _ => ?_
  exact .silent fun _ => rfl

theorem Client.connects_connect (c : Client) (v : Service σ) : (c.connect v).Connects := by
  intro s
  by_cases hconnected : s.isConnected = true
  · rw [connect, if_pos hconnected]
    exact ⟨[], by simp, by simp⟩
  · obtain ⟨new, hnew, hall⟩ := c.transport.connects_openChannel v s
    refine ⟨new, ?_, hall⟩
    rw [connect, if_neg hconnected, ← hnew]
    cases c.transport.openChannel v s with
    | mk r t => cases r <;> rfl

theorem Client.connects_close (v : Service σ) : (Client.close v).Connects := by
  refine .bind (.silent fun _ => rfl) fun s => .ite ?_ (.silent fun _ => rfl)
  exact .bind (Transport.connects_closeChannel v) fun _ => .silent fun _ => rfl

namespace Activity

variable {x : Activity σ}

/-! ### One operation -/

theorem onSession_apply {α : Type} (a : Action (Session σ) α) (x : Activity σ) :
    onSession a x = ((a x.session).1, { x with session := (a x.session).2 }) := rfl

theorem session_onSession (a : Action (Session σ) Unit) (x : Activity σ) :
    ((onSession a *> pure .done : Action (Activity σ) Reply) x).2.session = (a x.session).2 := by
  rw [Action.seqRight_pure_apply, onSession_apply]

theorem onTransaction_of_some {α : Type} {i : Nat} {t : Transaction} (a : Transaction.Step σ α)
    (h : x.begun[i]? = some t) :
    onTransaction i a x = ((a (t, x.session)).1,
      ⟨(a (t, x.session)).2.2, x.begun.set i (a (t, x.session)).2.1⟩) := by
  unfold onTransaction
  rw [h]

theorem onTransaction_of_none {α : Type} {i : Nat} (a : Transaction.Step σ α)
    (h : x.begun[i]? = none) : onTransaction i a x = (.error .missingIndex, x) := by
  unfold onTransaction
  rw [h]

/-- A transaction that is begun is appended to the others. -/
theorem perform_begin (mode : TransactionMode) (previous : Option Bytes) (x : Activity σ) :
    perform c v s (.begin mode previous) x =
      match c.begin v mode previous x.session with
      | (.ok t, y) => (.ok (.transaction t), ⟨y, x.begun ++ [t]⟩)
      | (.error e, y) => (.error e, ⟨y, x.begun⟩) := by
  rw [perform, Action.map_apply, begin, Action.bind_apply, onSession_apply]
  cases c.begin v mode previous x.session with
  | mk r y => cases r <;> rfl

/-- Looking at a transaction changes nothing. -/
theorem perform_inspect (i : Nat) (x : Activity σ) :
    (perform c v s (.inspect i) x).2 = x := by
  let read : Transaction.Step σ Transaction := fun y => (.ok y.1, y)
  have hperform : perform c v s (.inspect i) x =
      ((onTransaction i read x).1.map .transaction, (onTransaction i read x).2) :=
    Action.map_apply _ _ _
  rw [hperform]
  cases ht : x.begun[i]? with
  | none => rw [onTransaction_of_none read ht]
  | some t =>
    obtain ⟨hi, rfl⟩ := List.getElem?_eq_some_iff.mp ht
    rw [onTransaction_of_some read ht]
    show (⟨x.session, x.begun.set i x.begun[i]⟩ : Activity σ) = x
    rw [List.set_getElem_self]

/-- What a step of the session sends is sent in the activity. -/
theorem dispatches_onSession {α : Type} {a : Action (Session σ) α} {P : Wire.AnyRequest → Prop}
    (ha : a.Sends P) (reply : α → Reply) (x : Activity σ) :
    Dispatches P x.session ((reply <$> onSession a : Action (Activity σ) Reply) x).1
      ((reply <$> onSession a : Action (Activity σ) Reply) x).2.session := by
  rw [Action.map_apply, onSession_apply]
  exact (ha x.session).map reply

/-- **An operation adds dispatches of its own requests to the record.** -/
theorem dispatches_perform (op : Operation) (hop : op.isConnection = false) (x : Activity σ) :
    Dispatches (op.Asks c s x.begun) x.session (perform c v s op x).1
      (perform c v s op x).2.session := by
  cases hcall : op.call? with
  | some named =>
    obtain ⟨i, call⟩ := named
    obtain rfl := Operation.eq_operation hcall
    rw [Transaction.Call.perform_operation]
    cases ht : x.begun[i]? with
    | none =>
      rw [onTransaction_of_none _ ht]
      exact .nothing _
    | some t =>
      rw [onTransaction_of_some _ ht]
      exact (call.dispatches t x.session).mono fun q hq => Operation.asks_operation ht hq
  | none =>
    cases op with
    | connect | close | openChannel | closeChannel => cases hop
    | begin mode previous =>
      have hsent := c.sends_begin v mode previous x.session
      rw [perform_begin]
      cases hstep : c.begin v mode previous x.session with
      | mk r y =>
        rw [hstep] at hsent
        cases r with
        | error e => exact hsent.error
        | ok t => exact hsent.trans (.nothing _)
    | get i k into =>
      cases i with
      | some i => cases hcall
      | none => exact dispatches_onSession (c.sends_get v s none k into) .object x
    | getAll i ks into =>
      cases i with
      | some i => cases hcall
      | none => exact dispatches_onSession (c.sends_getAll v s none ks into) .objects x
    | query i q =>
      cases i with
      | some i => cases hcall
      | none => exact dispatches_onSession (c.sends_runQuery v none q) .entities x
    | put i n =>
      cases i with
      | some i => cases hcall
      | none => exact dispatches_onSession (c.sends_put v s n) .key x
    | putAll i ns =>
      cases i with
      | some i => cases hcall
      | none => exact dispatches_onSession (c.sends_putAll v s ns) .keys x
    | delete i k =>
      cases i with
      | some i => cases hcall
      | none => exact dispatches_onSession (c.sends_deleteAll v [k]) (fun _ => .done) x
    | deleteAll i ks =>
      cases i with
      | some i => cases hcall
      | none => exact dispatches_onSession (c.sends_deleteAll v ks) (fun _ => .done) x
    | commit i | rollback i => cases hcall
    | inspect i =>
      rw [perform_inspect]
      exact .nothing _

/-- What is true of a session after each step on the connection is true of it after every operation
on the connection. -/
theorem of_isConnection {op : Operation} (hop : op.isConnection = true) {P : Session σ → Prop}
    (hconnect : P (c.connect v x.session).2) (hclose : P (Client.close v x.session).2)
    (hopen : P (c.transport.openChannel v x.session).2)
    (hshut : P (Transport.closeChannel v x.session).2) : P (perform c v s op x).2.session := by
  cases op with
  | connect => exact (session_onSession _ x).symm ▸ hconnect
  | close => exact (session_onSession _ x).symm ▸ hclose
  | openChannel => exact (session_onSession _ x).symm ▸ hopen
  | closeChannel => exact (session_onSession _ x).symm ▸ hshut
  | _ => cases hop

/-- An operation on the connection adds nothing else to the record. -/
theorem connects_perform (op : Operation) (hop : op.isConnection = true) (x : Activity σ) :
    ∃ new, (perform c v s op x).2.session.events = x.session.events ++ new ∧
      ∀ e ∈ new, e.IsConnection := by
  refine of_isConnection (P := fun y => ∃ new, y.events = x.session.events ++ new ∧
    ∀ e ∈ new, e.IsConnection) hop ?_ ?_ ?_ ?_
  · exact c.connects_connect v x.session
  · exact Client.connects_close v x.session
  · exact c.transport.connects_openChannel v x.session
  · exact Transport.connects_closeChannel v x.session

/-- **An operation sends requests of its own, and no others.** -/
theorem requests_perform (op : Operation) (x : Activity σ) :
    ∃ sent, (perform c v s op x).2.session.requests = x.session.requests ++ sent ∧
      ∀ q ∈ sent, op.Asks c s x.begun q := by
  cases hop : op.isConnection with
  | false => exact (dispatches_perform op hop x).exists_requests
  | true =>
    obtain ⟨new, hnew, hall⟩ := connects_perform (c := c) (v := v) (s := s) op hop x
    have hnone : new.filterMap Event.request? = [] := by
      rw [List.filterMap_eq_nil_iff]
      intro e he
      have hconnection := hall e he
      cases e with
      | opened _ _ _ | closed => rfl
      | asked _ | sent _ _ _ => exact absurd hconnection id
    refine ⟨[], ?_, by simp⟩
    rw [Session.requests_eq, hnew, List.filterMap_append, hnone, Session.requests_eq]

/-! ### What an operation does to the transactions -/

/-- An operation on a transaction that has been begun changes this one alone. -/
theorem begun_of_call {op : Operation} {i : Nat} {call : Transaction.Call} {t : Transaction}
    (hcall : op.call? = some (i, call)) (ht : x.begun[i]? = some t) :
    (perform c v s op x).2.begun = x.begun.set i (call.perform c v s (t, x.session)).2.1 := by
  rw [Operation.eq_operation hcall, Transaction.Call.perform_operation, onTransaction_of_some _ ht]

/-- An operation on a transaction that has not been begun changes none. -/
theorem begun_of_missing {op : Operation} {i : Nat} {call : Transaction.Call}
    (hcall : op.call? = some (i, call)) (ht : x.begun[i]? = none) :
    (perform c v s op x).2.begun = x.begun := by
  rw [Operation.eq_operation hcall, Transaction.Call.perform_operation, onTransaction_of_none _ ht]

/-- Every other operation changes none either, and may begin a new one, which is open and empty. -/
theorem begun_of_no_call {op : Operation} (hcall : op.call? = none) (x : Activity σ) :
    (perform c v s op x).2.begun =
        x.begun ++ (op.begunBy (perform c v s op x).1).toList ∧
      ∀ t ∈ op.begunBy (perform c v s op x).1, t.staged = [] := by
  have hkept {α : Type} (a : Action (Session σ) α) (reply : α → Reply) :
      ((reply <$> onSession a : Action (Activity σ) Reply) x).2.begun = x.begun := by
    rw [Action.map_apply, onSession_apply]
  have hnone (h : ∀ r, op.begunBy r = none) (hbegun : (perform c v s op x).2.begun = x.begun) :
      (perform c v s op x).2.begun =
          x.begun ++ (op.begunBy (perform c v s op x).1).toList ∧
        ∀ t ∈ op.begunBy (perform c v s op x).1, t.staged = [] := by
    rw [h]
    refine ⟨?_, ?_⟩
    · rw [hbegun]
      exact (List.append_nil _).symm
    · simp
  cases op with
  | begin mode previous =>
    have hstart (t : Transaction) (h : (c.begin v mode previous x.session).1 = .ok t) :
        t.staged = [] := (Client.begin_eq_ok h).2
    rw [perform_begin]
    cases hstep : c.begin v mode previous x.session with
    | mk r y =>
      rw [hstep] at hstart
      cases r with
      | error e =>
        refine ⟨(List.append_nil _).symm, ?_⟩
        intro t ht
        cases ht
      | ok t =>
        refine ⟨rfl, ?_⟩
        intro t' ht'
        obtain rfl := Option.some.inj ht'
        exact hstart t rfl
  | connect | close | openChannel | closeChannel => exact hnone (fun _ => rfl) (hkept _ fun _ => _)
  | inspect i => exact hnone (fun _ => rfl) (by rw [perform_inspect])
  | commit i | rollback i => cases hcall
  | get i _ _ | getAll i _ _ | query i _ | put i _ | putAll i _ =>
    cases i with
    | some i => cases hcall
    | none => exact hnone (fun _ => rfl) (hkept _ _)
  | delete i _ | deleteAll i _ =>
    cases i with
    | some i => cases hcall
    | none => exact hnone (fun _ => rfl) (hkept _ fun _ => _)

end Activity

end EntityStore
