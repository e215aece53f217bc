import EntityStore.Transport

/-!
# Scripted services

A service that plays a script: it has the answers to calls ready, and hands out numbered tokens.

* `Script` — the answers that are left;
* `Service.scripted` — the service that plays a script.
-/

namespace EntityStore

/-- An answer to a call. -/
abbrev Answer := (m : Wire.Method) × Outcome (Wire.Response m)

/-- The number of tokens so far and the answers that are left. -/
structure Script where
  tokens : Nat
  answers : List Answer

namespace Script

/-- The first answer to a call, and the answers without it. -/
def take (m : Wire.Method) : List Answer → Option (Outcome (Wire.Response m) × List Answer)
  | [] => none
  | a :: rest =>
    if h : a.1 = m then some (h ▸ a.2, rest)
    else (take m rest).map fun (r, left) => (r, a :: left)

/-- The answer to a call when no other is left. -/
def exhausted {α : Type} : Outcome α := .error (.backend "script exhausted")

end Script

/-- The service that plays a script. The answers in `repeated` never end, the channel can be
refused, and `token` gives the token with a number, counted from one. -/
def Service.scripted (token : Nat → Outcome String) (repeated : List Answer)
    (refusal : Option String) : Service Script where
  token w := (token (w.tokens + 1), { w with tokens := w.tokens + 1 })
  answer m _ w :=
    match Script.take m w.answers with
    | some (r, left) => (r, { w with answers := left })
    | none =>
      match Script.take m repeated with
      | some (r, _) => (r, w)
      | none => (Script.exhausted, w)
  openChannel w :=
    match refusal with
    | some message => (.error (.system message), w)
    | none => (.ok (), w)
  buildStub w := (.ok (), w)
  closeChannel w := (.ok (), w)

/-- The token with a number. -/
def numberedToken (n : Nat) : String := "token-" ++ toString n

/-- The failure of a supplier that refuses a token. -/
def refusedToken (n : Nat) : Error :=
  .failure (.authorization ("token " ++ toString n ++ " refused"))

end EntityStore
