import EntityStore.Script

/-!
# Calls and what they leave behind

A call asks for a token and then sends its request, if the channel is there. What it does to the
session is the same for every method.

* `Session.requests` — the requests that have been sent;
* `Transport.call_refused`, `Transport.call_unconnected`, `Transport.call_answered` — the three ways
  of a call;
* `Transport.requests_call` — a call sends its own request at most;
* `Session.CanSend`, `Transport.requests_call_of_canSend` — a call that sends its request;
* `Service.playing`, `Session.playing` — an open connection to a service with given answers.
-/

namespace EntityStore

variable {σ : Type}

/-- The requests that have been sent, in order. -/
def Session.requests (s : Session σ) : List ((m : Wire.Method) × Wire.Request m) :=
  s.events.filterMap fun
    | .sent m request _ => some ⟨m, request⟩
    | _ => none

/-- The channel is open, and the next token is granted. -/
def Session.CanSend (s : Session σ) (v : Service σ) : Prop :=
  s.hasStub = true ∧ ∃ token w, v.token s.world = (.ok token, w)

namespace Transport

variable {v : Service σ} {m : Wire.Method} (request : Wire.Request m) {s : Session σ} {w : σ}

/-! ### The ways of a call -/

theorem call_refused {e : Error} (h : v.token s.world = (.error e, w)) :
    call v m request s =
      (.error e, { s with world := w, events := s.events ++ [.asked (.error e)] }) := by
  have htoken : askToken v s =
      (.error e, { s with world := w, events := s.events ++ [.asked (.error e)] }) := by
    rw [askToken, h]
  exact Action.bind_of_error _ htoken

/-- A token that is granted is recorded before the channel is looked at. -/
theorem call_granted {token : String} (h : v.token s.world = (.ok token, w)) :
    call v m request s =
      (if s.hasStub then do
        Action.record (.sent m request (authorization token))
        Action.outside (v.answer m request)
      else Action.ofOutcome (.error (.runtime notConnected)))
        { s with world := w, events := s.events ++ [.asked (.ok token)] } := by
  have htoken : askToken v s =
      (.ok token, { s with world := w, events := s.events ++ [.asked (.ok token)] }) := by
    rw [askToken, h]
  rw [call, Action.bind_of_ok _ htoken]
  rfl

theorem call_unconnected {token : String} (h : v.token s.world = (.ok token, w))
    (hstub : s.hasStub = false) :
    call v m request s = (.error (.runtime notConnected),
      { s with world := w, events := s.events ++ [.asked (.ok token)] }) := by
  rw [call_granted request h, hstub]
  rfl

theorem call_answered {token : String} (h : v.token s.world = (.ok token, w))
    (hstub : s.hasStub = true) :
    call v m request s = ((v.answer m request w).1,
      { s with world := (v.answer m request w).2, events := s.events ++ [.asked (.ok token)] ++
        [.sent m request (authorization token)] }) := by
  rw [call_granted request h, hstub]
  rfl

/-! ### What every call keeps -/

/-- **A call sends its own request and no other.** If it fails before the request is sent, it sends
none. -/
theorem requests_call :
    (call v m request s).2.requests = s.requests ++ [⟨m, request⟩] ∨
      (call v m request s).2.requests = s.requests ∧ ∃ e, (call v m request s).1 = .error e := by
  cases htoken : v.token s.world with
  | mk granted w =>
    cases granted with
    | error e =>
      right
      rw [call_refused request htoken]
      refine ⟨?_, e, rfl⟩
      simp [Session.requests]
    | ok token =>
      cases hstub : s.hasStub with
      | false =>
        right
        rw [call_unconnected request htoken hstub]
        refine ⟨?_, _, rfl⟩
        simp [Session.requests]
      | true =>
        left
        rw [call_answered request htoken hstub]
        simp [Session.requests]

theorem requests_call_of_canSend (h : s.CanSend v) :
    (call v m request s).2.requests = s.requests ++ [⟨m, request⟩] := by
  obtain ⟨hstub, token, w, htoken⟩ := h
  rw [call_answered request htoken hstub]
  simp [Session.requests]

theorem requests_call_of_ok {a : Wire.Response m} (h : (call v m request s).1 = .ok a) :
    (call v m request s).2.requests = s.requests ++ [⟨m, request⟩] := by
  rcases requests_call (v := v) (s := s) request with hsent | ⟨_, e, herror⟩
  · exact hsent
  · rw [herror] at h
    cases h

@[simp] theorem hasStub_call : (call v m request s).2.hasStub = s.hasStub := by
  cases htoken : v.token s.world with
  | mk granted w =>
    cases granted with
    | error e => rw [call_refused request htoken]
    | ok token =>
      cases hstub : s.hasStub with
      | false => rw [call_unconnected request htoken hstub, ← hstub]
      | true => rw [call_answered request htoken hstub, ← hstub]

end Transport

/-- A service that grants every token and has its answers ready. -/
def Service.playing : Service Script := .scripted (fun n => .ok (numberedToken n)) [] none

/-- An open connection to it. -/
def Session.playing (answers : List Answer) : Session Script :=
  ⟨⟨0, answers⟩, true, true, true, []⟩

end EntityStore
