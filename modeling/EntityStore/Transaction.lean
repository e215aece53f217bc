import EntityStore.Client

/-!
# Transactions

A transaction stages writes and sends them in one commit. Its reads see one state of the data.

* `Client.begin` — begins a transaction;
* `Transaction.getAll`, `Transaction.query` — reads;
* `Transaction.putAll`, `Transaction.deleteAll` — stage writes;
* `Transaction.commit`, `Transaction.rollback` — end the transaction.
-/

namespace EntityStore

/-- Whether a transaction is open or how it ended. -/
inductive TransactionState
  | active | committed | rolledBack
  deriving DecidableEq

/-- The name of a state. -/
def TransactionState.name : TransactionState → String
  | active => "active"
  | committed => "committed"
  | rolledBack => "rolled_back"

/-- How a transaction is begun. -/
inductive TransactionMode
  | default | readOnly | readWrite
  deriving DecidableEq

/-- All modes. -/
def TransactionMode.all : List TransactionMode := [.default, .readOnly, .readWrite]

/-- The name of a mode. -/
def TransactionMode.name : TransactionMode → String
  | default => "default"
  | readOnly => "read_only"
  | readWrite => "read_write"

/-- A transaction with the mutations that it has staged. -/
structure Transaction where
  id : Bytes
  state : TransactionState
  staged : List Mutation

/-- The options for a mode. Only a transaction that reads and writes can repeat a failed one. -/
def TransactionMode.options (mode : TransactionMode) (previous : Option Bytes) :
    Outcome (Option Wire.TransactionOptions) :=
  match mode, previous with
  | readWrite, previous => .ok (some (.readWrite (previous.getD [])))
  | _, some _ => .error (.value .previousTransaction)
  | readOnly, none => .ok (some .readOnly)
  | default, none => .ok none

variable {σ : Type}

/-- Begins a transaction. -/
def Client.begin (c : Client) (v : Service σ) (mode : TransactionMode) (previous : Option Bytes) :
    Action (Session σ) Transaction := do
  let options ← Action.ofOutcome (mode.options previous)
  let id ← Transport.call v .beginTransaction ⟨c.projectId, options⟩
  return ⟨id, .active, []⟩

namespace Transaction

/-- The written form. -/
def form (t : Transaction) : String :=
  "Transaction(id=" ++ Text.hexBytes t.id ++ ", state=" ++ t.state.name ++
    ", pending_mutations=" ++ toString t.staged.length ++ ")"

/-- The failure of an operation on a transaction that has ended. -/
def ended (t : Transaction) (operation : String) : Error :=
  .failure (.transaction ("Cannot " ++ operation ++ ": transaction is " ++ t.state.name)
    (some t.id) (some t.state.name))

/-- A step of a transaction in a session. -/
abbrev Step (σ α : Type) := Action (Transaction × Session σ) α

/-- A step of the session. -/
def onSession {α : Type} (a : Action (Session σ) α) : Step σ α := fun (t, s) =>
  let (r, s) := a s
  (r, (t, s))

/-- The transaction, if it is still open. -/
def requireActive (operation : String) : Step σ Transaction := fun (t, s) =>
  if t.state = .active then (.ok t, (t, s)) else (.error (t.ended operation), (t, s))

/-- Stages mutations. -/
def stage (ms : List Mutation) : Step σ Unit := fun (t, s) =>
  (.ok (), ({ t with staged := t.staged ++ ms }, s))

/-- Ends the transaction. -/
def finish (state : TransactionState) : Step σ Unit := fun (t, s) =>
  (.ok (), (⟨t.id, state, []⟩, s))

/-! ### Reads -/

/-- Reads entities. -/
def getAll (c : Client) (v : Service σ) (schema : Schema) (keys : List KeyInput)
    (into : Option Target) : Step σ (List Native) := do
  let t ← requireActive "get"
  onSession (c.getAll v schema (some t.id) keys into)

/-- Reads an entity, if there is one. -/
def get (c : Client) (v : Service σ) (schema : Schema) (key : KeyInput) (into : Option Target) :
    Step σ (Option Native) := do
  return (← getAll c v schema [key] into).head?

/-- Runs a query. -/
def query (c : Client) (v : Service σ) (q : Query) : Step σ (List Entity) := do
  let t ← requireActive "query"
  onSession (c.runQuery v (some t.id) q)

/-! ### Writes -/

/-- Stages writes of entities, all or none. -/
def putAll (c : Client) (schema : Schema) (objects : List Native) : Step σ Unit := do
  let _ ← requireActive "put"
  stage (← Action.ofOutcome (c.compilePuts schema true objects))

/-- Stages a write of an entity. -/
def put (c : Client) (schema : Schema) (object : Native) : Step σ Unit :=
  putAll c schema [object]

/-- Stages the deletions for keys one by one, up to the first key that is none. -/
def stageDeletions (c : Client) : List KeyInput → Step σ Unit
  | [] => pure ()
  | k :: rest => do
    stage [← Action.ofOutcome (c.compileDelete k)]
    stageDeletions c rest

/-- Stages deletions. -/
def deleteAll (c : Client) (keys : List KeyInput) : Step σ Unit := do
  let _ ← requireActive "delete"
  stageDeletions c keys

/-- Stages a deletion. -/
def delete (c : Client) (key : KeyInput) : Step σ Unit :=
  deleteAll c [key]

/-! ### Completion -/

/-- Sends all staged mutations. The result has the allocated key of each write, if there is one. The
transaction ends when the answer is understood. -/
def commit (c : Client) (v : Service σ) : Step σ (List (Option Key)) := do
  let t ← requireActive "commit"
  let response ← onSession (c.commit v (some t.id) t.staged)
  let keys ← Action.ofOutcome (Mutation.keys response (t.staged.map (·.kind)))
  finish .committed
  return keys

/-- Abandons the transaction and its staged mutations. -/
def rollback (c : Client) (v : Service σ) : Step σ Unit := do
  let t ← requireActive "rollback"
  onSession (Transport.call v .rollback ⟨c.projectId, t.id⟩)
  finish .rolledBack

end Transaction

end EntityStore
