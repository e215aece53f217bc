import EntityStore.Action
import EntityStore.Wire.Message

/-!
# Transport

The channel to the service, and a record of what passes to the outside.

* `Service` — everything outside: tokens, channels and answers, with a state of their own;
* `Session` — the state of the outside, the state of the channel and the events so far;
* `Transport.openChannel`, `Transport.closeChannel` — the channel;
* `Transport.call` — a call with a token of its own.
-/

namespace EntityStore

/-- The outside of a client. What it answers may depend on its state. -/
structure Service (σ : Type) where
  token : σ → Outcome String × σ
  answer : (m : Wire.Method) → Wire.Request m → σ → Outcome (Wire.Response m) × σ
  openChannel : σ → Outcome Unit × σ
  buildStub : σ → Outcome Unit × σ
  closeChannel : σ → Outcome Unit × σ

/-- What passes to the outside. -/
inductive Event
  | asked (token : Outcome String)
  | opened (address : String) (isSecure : Bool) (maxMessageSize : Nat)
  | sent (method : Wire.Method) (request : Wire.Request method) (metadata : List (String × String))
  | closed

/-- The state of the outside, whether there are a channel and a stub on it, whether the client is
connected, and the events so far. -/
structure Session (σ : Type) where
  world : σ
  hasChannel : Bool
  hasStub : Bool
  isConnected : Bool
  events : List Event

/-- The session in which nothing has happened yet. -/
def Session.start {σ : Type} (world : σ) : Session σ := ⟨world, false, false, false, []⟩

namespace Action

/-- A step of the outside. -/
def outside {σ α : Type} (f : σ → Outcome α × σ) : Action (Session σ) α := fun s =>
  let (r, world) := f s.world
  (r, { s with world := world })

/-- Records an event. -/
def record {σ : Type} (e : Event) : Action (Session σ) Unit := fun s =>
  (.ok (), { s with events := s.events ++ [e] })

end Action

/-- The address of the service, whether the channel is encrypted, and the largest message. -/
structure Transport where
  address : String
  isSecure : Bool
  maxMessageSize : Nat

namespace Transport

variable {σ : Type}

/-- Opens the channel, unless there is one, and builds the stub on it. -/
def openChannel (t : Transport) (v : Service σ) : Action (Session σ) Unit := do
  if (← Action.state).hasChannel then return
  Action.outside v.openChannel
  Action.update fun s => { s with hasChannel := true }
  Action.record (.opened t.address t.isSecure t.maxMessageSize)
  Action.outside v.buildStub
  Action.update fun s => { s with hasStub := true }

/-- Closes the channel, if there is one. -/
def closeChannel (v : Service σ) : Action (Session σ) Unit := do
  if (← Action.state).hasChannel then
    Action.outside v.closeChannel
    Action.record .closed
    Action.update fun s => { s with hasChannel := false, hasStub := false }

/-- Asks for a token. -/
def askToken (v : Service σ) : Action (Session σ) String := fun s =>
  let (r, world) := v.token s.world
  (r, { s with world := world, events := s.events ++ [.asked r] })

/-- The metadata that carries a token. -/
def authorization (token : String) : List (String × String) :=
  [("authorization", "Bearer " ++ token)]

/-- The text of the failure of a call without a channel. -/
def notConnected : String := "Not connected. Call connect() first."

/-- A call, which carries a token of its own. The token is asked for first. -/
def call (v : Service σ) (m : Wire.Method) (request : Wire.Request m) :
    Action (Session σ) (Wire.Response m) := do
  let token ← askToken v
  if (← Action.state).hasStub then
    Action.record (.sent m request (authorization token))
    Action.outside (v.answer m request)
  else Action.ofOutcome (.error (.runtime notConnected))

end Transport

end EntityStore
