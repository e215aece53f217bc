import EntityStore.Error

/-!
# Tokens

Every request carries a token. A supplier hands out a fixed one, or the one of credentials that are
refreshed when they are not valid. Calls may overlap: one at a time refreshes, the others wait and
look again.

* `Supplier` — a fixed token, or credentials;
* `Exchange.step` — a step of one of several calls that overlap;
* `Supplier.tokens` — the answers to calls that are served in order.
-/

namespace EntityStore

/-! ### Credentials -/

/-- What comes of a refresh: a token, which may already be invalid, a refusal, or an outside fault
that passes through. -/
inductive RefreshOutcome
  | granted (token : Option String) (isValid : Bool)
  | refused (message : String)
  | broken (message : String)

/-- Credentials with their token, and what comes of each refresh. -/
structure Credentials where
  token : Option String
  isValid : Bool
  refreshes : Nat
  outcome : Nat → RefreshOutcome

namespace Credentials

/-- Credentials whose time has run out. -/
def expire (c : Credentials) : Credentials := { c with isValid := false }

/-- A refresh, and its error if it fails. -/
def refresh (c : Credentials) : Option Error × Credentials :=
  let after := { c with refreshes := c.refreshes + 1 }
  match c.outcome c.refreshes with
  | .granted token isValid => (none, { after with token := token, isValid := isValid })
  | .refused message =>
    (some (.failure (.authorization ("Failed to refresh access token: " ++ message))), after)
  | .broken message => (some (.runtime message), after)

end Credentials

/-! ### Overlapping calls -/

/-- How far a call is: it has not looked at the credentials yet, waits for the lock, holds the lock
while they are refreshed, holds it still when the refresh is over, or has an answer. -/
inductive Phase
  | entering
  | waiting
  | refreshing
  | resuming (failure : Option Error)
  | answered (r : Outcome (Option String))

/-- Whether a call holds the lock. -/
def Phase.holdsLock : Phase → Bool
  | refreshing | resuming _ => true
  | entering | waiting | answered _ => false

/-- Calls that overlap, and the credentials that they share. -/
structure Exchange where
  credentials : Credentials
  calls : List Phase

namespace Exchange

/-- Calls that have all just been made. -/
def start (c : Credentials) (n : Nat) : Exchange := ⟨c, List.replicate n .entering⟩

/-- Whether no call holds the lock. -/
def isFree (x : Exchange) : Bool := !x.calls.any Phase.holdsLock

/-- The answer of a call that finds the credentials valid. -/
def found (x : Exchange) : Phase := .answered (.ok x.credentials.token)

/-- One step of the call number `i`. A call that waits goes on when the lock is free. A refresh
changes the credentials before the call that has asked for it goes on. -/
def step (x : Exchange) (i : Nat) : Exchange :=
  match x.calls[i]? with
  | some .entering =>
    { x with calls := x.calls.set i (if x.credentials.isValid then x.found else .waiting) }
  | some .waiting =>
    if x.isFree then
      { x with calls := x.calls.set i (if x.credentials.isValid then x.found else .refreshing) }
    else x
  | some .refreshing =>
    let (failure, c) := x.credentials.refresh
    ⟨c, x.calls.set i (.resuming failure)⟩
  | some (.resuming none) => { x with calls := x.calls.set i x.found }
  | some (.resuming (some e)) => { x with calls := x.calls.set i (.answered (.error e)) }
  | some (.answered _) | none => x

/-- Steps of calls in a given order. -/
def run (x : Exchange) (schedule : List Nat) : Exchange := schedule.foldl step x

/-- The order in which all of `n` calls enter, and then each goes on until it has its answer. -/
def inOrder (n : Nat) : List Nat :=
  List.range n ++ (List.range n).flatMap fun i => [i, i, i]

/-- The answers so far. -/
def answers (x : Exchange) : List (Outcome (Option String)) :=
  x.calls.filterMap fun p =>
    match p with
    | .answered r => some r
    | _ => none

end Exchange

/-! ### Suppliers -/

/-- A source of tokens. -/
inductive Supplier
  | fixed (token : String)
  | refreshing (credentials : Credentials)

namespace Supplier

/-- The supplier for a service that does not check tokens. -/
def default : Supplier := fixed "owner"

/-- The supplier from a key file, if the file holds credentials. -/
def ofKeyFile (found : Option Credentials) : Outcome Supplier :=
  match found with
  | some c => .ok (refreshing c)
  | none => .error (.failure (.authorization "Failed to load credentials"))

/-- The supplier from the credentials of the surroundings. -/
def ofSurroundings (found : Except String Credentials) : Outcome Supplier :=
  match found with
  | .ok c => .ok (refreshing c)
  | .error message =>
    .error (.failure (.authorization ("No default credentials available: " ++ message)))

/-- The name of the kind of supplier. -/
def kindName : Supplier → String
  | fixed _ => "StaticTokenSupplier"
  | refreshing _ => "CredentialsTokenSupplier"

/-- The supplier when the time of its credentials has run out. -/
def expire : Supplier → Supplier
  | fixed token => fixed token
  | refreshing c => refreshing c.expire

/-- The number of refreshes so far. -/
def refreshes : Supplier → Nat
  | fixed _ => 0
  | refreshing c => c.refreshes

/-- The answers to `n` calls that start together and are served in order. -/
def tokens (n : Nat) : Supplier → List (Outcome (Option String)) × Supplier
  | fixed token => (List.replicate n (.ok (some token)), fixed token)
  | refreshing c =>
    let x := (Exchange.start c n).run (Exchange.inOrder n)
    (x.answers, refreshing x.credentials)

end Supplier

end EntityStore
