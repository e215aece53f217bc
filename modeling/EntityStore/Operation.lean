import EntityStore.Transaction

/-!
# Operations

What an application can ask of a client and of the transactions that it has begun, as data, so that
any sequence of operations can be run and spoken about.

* `Activity` — a session and the transactions begun in it;
* `Operation`, `Reply` — what is asked and what comes back;
* `Activity.perform` — an operation;
* `Activity.within` — a body between the opening and the closing of a connection.
-/

namespace EntityStore

/-- A session and the transactions begun in it, the oldest first. -/
structure Activity (σ : Type) where
  session : Session σ
  begun : List Transaction

/-- What an application can ask for. An operation in a transaction names it by its number. -/
inductive Operation
  | connect
  | close
  | openChannel
  | closeChannel
  | begin (mode : TransactionMode) (previous : Option Bytes)
  | get (transaction : Option Nat) (key : KeyInput) (into : Option Target)
  | getAll (transaction : Option Nat) (keys : List KeyInput) (into : Option Target)
  | query (transaction : Option Nat) (q : Query)
  | put (transaction : Option Nat) (object : Native)
  | putAll (transaction : Option Nat) (objects : List Native)
  | delete (transaction : Option Nat) (key : KeyInput)
  | deleteAll (transaction : Option Nat) (keys : List KeyInput)
  | commit (transaction : Nat)
  | rollback (transaction : Nat)
  | inspect (transaction : Nat)

/-- What comes back from an operation. -/
inductive Reply
  | done
  | object (n : Option Native)
  | objects (ns : List Native)
  | entities (es : List Entity)
  | key (k : Option Key)
  | keys (ks : List (Option Key))
  | transaction (t : Transaction)

namespace Activity

variable {σ : Type}

/-- The activity in which nothing has happened yet. -/
def start (world : σ) : Activity σ := ⟨.start world, []⟩

/-- A step of the session. -/
def onSession {α : Type} (a : Action (Session σ) α) : Action (Activity σ) α := fun x =>
  let (r, s) := a x.session
  (r, { x with session := s })

/-- A step of a transaction. -/
def onTransaction {α : Type} (i : Nat) (a : Transaction.Step σ α) :
    Action (Activity σ) α := fun x =>
  match x.begun[i]? with
  | none => (.error .missingIndex, x)
  | some t =>
    let (r, (t, s)) := a (t, x.session)
    (r, ⟨s, x.begun.set i t⟩)

/-- Begins a transaction. -/
def begin (c : Client) (v : Service σ) (mode : TransactionMode) (previous : Option Bytes) :
    Action (Activity σ) Transaction := do
  let t ← onSession (c.begin v mode previous)
  Action.update fun x => { x with begun := x.begun ++ [t] }
  return t

/-- Performs an operation. -/
def perform (c : Client) (v : Service σ) (s : Schema) : Operation → Action (Activity σ) Reply
  | .connect => onSession (c.connect v) *> pure .done
  | .close => onSession (Client.close v) *> pure .done
  | .openChannel => onSession (c.transport.openChannel v) *> pure .done
  | .closeChannel => onSession (Transport.closeChannel v) *> pure .done
  | .begin mode previous => .transaction <$> begin c v mode previous
  | .get none k into => .object <$> onSession (c.get v s none k into)
  | .get (some i) k into => .object <$> onTransaction i (Transaction.get c v s k into)
  | .getAll none ks into => .objects <$> onSession (c.getAll v s none ks into)
  | .getAll (some i) ks into => .objects <$> onTransaction i (Transaction.getAll c v s ks into)
  | .query none q => .entities <$> onSession (c.runQuery v none q)
  | .query (some i) q => .entities <$> onTransaction i (Transaction.query c v q)
  | .put none n => .key <$> onSession (c.put v s n)
  | .put (some i) n => onTransaction i (Transaction.put c s n) *> pure .done
  | .putAll none ns => .keys <$> onSession (c.putAll v s ns)
  | .putAll (some i) ns => onTransaction i (Transaction.putAll c s ns) *> pure .done
  | .delete none k => onSession (c.delete v k) *> pure .done
  | .delete (some i) k => onTransaction i (Transaction.delete c k) *> pure .done
  | .deleteAll none ks => onSession (c.deleteAll v ks) *> pure .done
  | .deleteAll (some i) ks => onTransaction i (Transaction.deleteAll c ks) *> pure .done
  | .commit i => .keys <$> onTransaction i (Transaction.commit c v)
  | .rollback i => onTransaction i (Transaction.rollback c v) *> pure .done
  | .inspect i => .transaction <$> onTransaction i fun (t, s) => (.ok t, (t, s))

/-- A body between two steps of the session. The last step is taken even if the body fails, and its
failure counts more. -/
def within {α : Type} (first last : Action (Session σ) Unit) (body : Action (Activity σ) α) :
    Action (Activity σ) α := do
  onSession first
  fun x =>
    let (r, x) := body x
    match onSession last x with
    | (.ok _, x) => (r, x)
    | (.error e, x) => (.error e, x)

end Activity

end EntityStore
