import EntityStore.Proofs.Transport
import EntityStore.Transaction
import Mathlib.Data.List.Basic

/-!
# What a step leaves in the record

A call asks for a token and sends its request with it, one right after the other. So the record of a
step of the client consists of dispatches, each a token with the request that carries it. Behind the
last dispatch may stand a token that was not used: then the step has failed. The connection stays as
it is, and where there is no stub on it, nothing is dispatched.

* `Dispatch` — a request with the token that it carries;
* `Halt` — how the record of a step ends, by what comes of the step;
* `Dispatches` — what a step does to a session, with requests that fulfil a condition;
* `Action.Sends` — a step whose every run does so; `Action.Sends.bind`, `Action.Sends.call`;
* `Client.sends_lookup`, `Client.sends_runQuery`, `Client.sends_putAll`, `Client.sends_deleteAll`,
  `Client.sends_begin` — what the steps of the client send.
-/

namespace EntityStore

variable {σ α β : Type}

/-- A request of any method. -/
abbrev Wire.AnyRequest : Type := (m : Wire.Method) × Wire.Request m

/-- The request that an event sends, if it sends one. -/
def Event.request? : Event → Option Wire.AnyRequest
  | .sent m request _ => some ⟨m, request⟩
  | _ => none

theorem Session.requests_eq (s : Session σ) :
    s.requests = s.events.filterMap Event.request? := by
  have hsame : (fun
      | .sent m request _ => some (⟨m, request⟩ : Wire.AnyRequest)
      | _ => none) = Event.request? := by
    funext e
    cases e <;> rfl
  exact congrArg (List.filterMap · s.events) hsame

/-- A token that was granted, and the request that carries it. -/
structure Dispatch where
  token : String
  request : Wire.AnyRequest

/-- The record of a dispatch. -/
def Dispatch.events (d : Dispatch) : List Event :=
  [.asked (.ok d.token), .sent d.request.1 d.request.2 (Transport.authorization d.token)]

/-- No token of a dispatch is refused. -/
theorem Dispatch.ne_refused {ds : List Dispatch} {f : Event}
    (hf : f ∈ ds.flatMap Dispatch.events) (e : Error) : f ≠ .asked (.error e) := by
  obtain ⟨d, -, hd⟩ := List.mem_flatMap.mp hf
  rcases List.mem_pair.mp hd with rfl | rfl
  · intro heq
    cases heq
  · intro heq
    cases heq

/-- How the record of a step ends behind its dispatches: with nothing, with a token that was
refused, or with one that was granted in vain. -/
inductive Halt : Outcome α → List Event → Prop
  | complete (r : Outcome α) : Halt r []
  | refused (e : Error) : Halt (.error e) [.asked (.error e)]
  | unconnected (token : String) :
      Halt (.error (.runtime Transport.notConnected)) [.asked (.ok token)]

namespace Halt

theorem eq_nil {a : α} {last : List Event} (h : Halt (.ok a) last) : last = [] := by
  cases h
  rfl

/-- What a step would have returned does not count where it fails. -/
theorem error {e : Error} {last : List Event} (h : Halt (.error e : Outcome α) last) :
    Halt (.error e : Outcome β) last := by
  cases h with
  | complete => exact .complete _
  | refused => exact .refused e
  | unconnected token => exact .unconnected token

theorem map {r : Outcome α} {last : List Event} (h : Halt r last) (f : α → β) :
    Halt (r.map f) last := by
  cases r with
  | error e => exact h.error
  | ok a =>
    obtain rfl := h.eq_nil
    exact .complete _

/-- A token that is refused is all there is. -/
theorem of_refused {r : Outcome α} {last rest back : List Event} {e : Error} (h : Halt r last)
    (hlast : last = rest ++ .asked (.error e) :: back) : back = [] ∧ r = .error e := by
  cases h with
  | complete => simp at hlast
  | refused e' =>
    cases rest with
    | nil =>
      obtain ⟨hsame, hnil⟩ := List.cons.inj hlast
      cases hsame
      exact ⟨hnil.symm, rfl⟩
    | cons f rest => simp at hlast
  | unconnected token =>
    cases rest with
    | nil => cases (List.cons.inj hlast).1
    | cons f rest => simp at hlast

end Halt

/-- What is known of the connection: whether there are a channel and a stub on it, and whether the
client is connected. -/
def Session.connection (s : Session σ) : Bool × Bool × Bool :=
  (s.hasChannel, s.hasStub, s.isConnected)

/-- A step with an outcome adds dispatches to the record of a session, all of requests that fulfil a
condition, and an end that fits the outcome. It leaves the connection as it is, and dispatches
nothing without a stub. -/
def Dispatches (P : Wire.AnyRequest → Prop) (x : Session σ) (r : Outcome α) (y : Session σ) :
    Prop :=
  ∃ (ds : List Dispatch) (last : List Event),
    y.events = x.events ++ (ds.flatMap Dispatch.events ++ last) ∧
    (∀ d ∈ ds, P d.request ∧ x.hasStub = true) ∧ Halt r last ∧ y.connection = x.connection

namespace Dispatches

variable {P Q : Wire.AnyRequest → Prop} {x y z : Session σ} {r : Outcome α}

theorem nothing (r : Outcome α) : Dispatches P x r x := by
  refine ⟨[], [], ?_, ?_, .complete r, rfl⟩
  · simp
  · simp

theorem mono (h : Dispatches P x r y) (hPQ : ∀ q, P q → Q q) : Dispatches Q x r y := by
  obtain ⟨ds, last, hy, hall, hlast, hkept⟩ := h
  exact ⟨ds, last, hy, fun d hd => (hall d hd).imp_left (hPQ d.request), hlast, hkept⟩

theorem error {e : Error} (h : Dispatches P x (.error e : Outcome α) y) :
    Dispatches P x (.error e : Outcome β) y := by
  obtain ⟨ds, last, hy, hall, hlast, hkept⟩ := h
  exact ⟨ds, last, hy, hall, hlast.error, hkept⟩

theorem map (h : Dispatches P x r y) (f : α → β) : Dispatches P x (r.map f) y := by
  obtain ⟨ds, last, hy, hall, hlast, hkept⟩ := h
  exact ⟨ds, last, hy, hall, hlast.map f, hkept⟩

theorem hasStub_eq (h : Dispatches P x r y) : y.hasStub = x.hasStub := by
  obtain ⟨ds, last, -, -, -, hkept⟩ := h
  exact congrArg (·.2.1) hkept

/-- A step that succeeds leaves no token unused, so the dispatches of the next one follow at
once. -/
theorem trans {a : α} {r : Outcome β} (hfirst : Dispatches P x (.ok a) y)
    (hnext : Dispatches P y r z) : Dispatches P x r z := by
  have hstub := hfirst.hasStub_eq
  obtain ⟨ds, last, hy, hds, hlast, hkept⟩ := hfirst
  obtain ⟨es, rest, hz, hes, hrest, hkept'⟩ := hnext
  obtain rfl := hlast.eq_nil
  refine ⟨ds ++ es, rest, ?_, ?_, hrest, hkept'.trans hkept⟩
  · simp [hz, hy]
  · intro d hd
    rcases List.mem_append.mp hd with hleft | hright
    · exact hds d hleft
    · rw [← hstub]
      exact hes d hright

/-- The requests that are added to the record fulfil the condition. -/
theorem exists_requests (h : Dispatches P x r y) :
    ∃ sent, y.requests = x.requests ++ sent ∧ ∀ q ∈ sent, P q := by
  obtain ⟨ds, last, hy, hall, hlast, -⟩ := h
  have hds : (ds.flatMap Dispatch.events).filterMap Event.request? = ds.map Dispatch.request := by
    clear hall hy
    induction ds with
    | nil => rfl
    | cons d ds ih =>
      rw [List.flatMap_cons, List.filterMap_append, ih]
      rfl
  have hnone : last.filterMap Event.request? = [] := by
    cases hlast <;> rfl
  refine ⟨ds.map Dispatch.request, ?_, ?_⟩
  · simp only [Session.requests_eq, hy, List.filterMap_append, hds, hnone, List.append_nil]
  · intro q hq
    obtain ⟨d, hd, rfl⟩ := List.mem_map.mp hq
    exact (hall d hd).1

/-- A token that is refused is the last thing in the record, and the step fails with its error. -/
theorem refused {front back : List Event} {e : Error} (h : Dispatches P x r y)
    (hy : y.events = x.events ++ (front ++ .asked (.error e) :: back)) :
    back = [] ∧ r = .error e := by
  obtain ⟨ds, last, hafter, -, hlast, -⟩ := h
  rcases List.append_eq_append_iff.mp (List.append_cancel_left (hy.symm.trans hafter)) with
    ⟨rest, hds, hrest⟩ | ⟨rest, -, hrest⟩
  · cases rest with
    | nil =>
      have hlast' : last = [] ++ .asked (.error e) :: back := hrest.symm
      exact hlast.of_refused hlast'
    | cons f rest =>
      -- then the token would belong to a dispatch
      have hf : f = .asked (.error e) := (List.cons.inj hrest).1.symm
      have hmem : f ∈ ds.flatMap Dispatch.events := by
        rw [hds]
        exact List.mem_append_right front List.mem_cons_self
      exact absurd hf (Dispatch.ne_refused hmem e)
  · exact hlast.of_refused hrest

end Dispatches

/-! ### Steps of a session -/

/-- Whatever the session, a step adds dispatches to its record, all of requests that fulfil a
condition. -/
def Action.Sends (P : Wire.AnyRequest → Prop) (a : Action (Session σ) α) : Prop :=
  ∀ s, Dispatches P s (a s).1 (a s).2

namespace Action.Sends

variable {P Q : Wire.AnyRequest → Prop} {a : Action (Session σ) α}

theorem mono (h : a.Sends P) (hPQ : ∀ q, P q → Q q) : a.Sends Q :=
  fun s => (h s).mono hPQ

theorem ofOutcome (r : Outcome α) : (Action.ofOutcome r : Action (Session σ) α).Sends P :=
  fun _ => .nothing r

theorem pure (x : α) : (Pure.pure x : Action (Session σ) α).Sends P :=
  ofOutcome (.ok x)

theorem bind {f : α → Action (Session σ) β} (ha : a.Sends P) (hf : ∀ x, (f x).Sends P) :
    (a >>= f).Sends P := by
  intro s
  have hfirst := ha s
  rw [Action.bind_apply]
  cases hstep : a s with
  | mk r t =>
    rw [hstep] at hfirst
    cases r with
    | error e => exact hfirst.error
    | ok x => exact hfirst.trans (hf x t)

/-- What follows an outcome needs to be looked at for its result only. -/
theorem ofOutcome_bind {r : Outcome α} {f : α → Action (Session σ) β}
    (hf : ∀ x, r = .ok x → (f x).Sends P) : (Action.ofOutcome r >>= f).Sends P := by
  intro s
  cases r with
  | error e => exact .nothing _
  | ok x => exact hf x rfl s

theorem ite {p : Prop} [Decidable p] {b : Action (Session σ) α} (ha : a.Sends P) (hb : b.Sends P) :
    (if p then a else b).Sends P := by
  by_cases hp : p
  · rw [if_pos hp]
    exact ha
  · rw [if_neg hp]
    exact hb

/-- **A call asks for one token and sends one request with it.** If the token is refused or there is
no channel, nothing is sent. -/
theorem call (v : Service σ) {m : Wire.Method} {request : Wire.Request m} (h : P ⟨m, request⟩) :
    (Transport.call v m request).Sends P := by
  intro s
  cases htoken : v.token s.world with
  | mk granted w =>
    cases granted with
    | error e =>
      rw [Transport.call_refused request htoken]
      exact ⟨[], _, rfl, by simp, .refused e, rfl⟩
    | ok token =>
      cases hstub : s.hasStub with
      | false =>
        rw [Transport.call_unconnected request htoken hstub]
        exact ⟨[], _, rfl, by simp, .unconnected token, by simp [Session.connection, hstub]⟩
      | true =>
        rw [Transport.call_answered request htoken hstub]
        refine ⟨[⟨token, ⟨m, request⟩⟩], [], ?_, ?_, .complete _, ?_⟩
        · simp [Dispatch.events]
        · simpa using ⟨h, hstub⟩
        · simp [Session.connection, hstub]

end Action.Sends

/-! ### Steps of the client -/

namespace Client

variable (c : Client) (v : Service σ)

/-- A request for entities, in a transaction or not. -/
def AsksLookup (transaction : Option Bytes) (q : Wire.AnyRequest) : Prop :=
  ∃ keys, q = ⟨.lookup, c.lookupRequest transaction keys⟩

/-- A request for a page of a query, in a transaction or not. -/
def AsksPage (transaction : Option Bytes) (query : Query) (q : Wire.AnyRequest) : Prop :=
  ∃ compiled cursor, query.compile c.projectId = .ok compiled ∧
    q = ⟨.runQuery, c.pageRequest transaction query compiled cursor⟩

/-- A request that commits mutations, in a transaction or not. -/
def AsksCommit (transaction : Option Bytes) (mutations : List Mutation) (q : Wire.AnyRequest) :
    Prop :=
  q = ⟨.commit, c.commitRequest transaction mutations⟩

/-- The induction is on the rounds that are left; each of them makes one call. -/
theorem sends_lookupRounds (transaction : Option Bytes) (rounds : Nat) :
    ∀ keys found, (c.lookupRounds v transaction rounds keys found).Sends
      (c.AsksLookup transaction) := by
  induction rounds with
  | zero =>
    intro keys found
    cases keys with
    | nil => exact .pure found
    | cons k keys => exact .ofOutcome _
  | succ rounds ih =>
    intro keys found
    cases keys with
    | nil => exact .pure found
    | cons k keys =>
      refine .bind (.call v ⟨k :: keys, rfl⟩) fun response => ?_
      refine .bind (.ofOutcome _) fun entities => ?_
      exact ih response.deferred _

theorem sends_lookup (transaction : Option Bytes) (keys : List KeyInput) :
    (c.lookup v transaction keys).Sends (c.AsksLookup transaction) := by
  refine .bind (.ofOutcome _) fun keys => ?_
  exact .bind (c.sends_lookupRounds v transaction _ _ _) fun found => .pure _

theorem sends_getAll (s : Schema) (transaction : Option Bytes) (keys : List KeyInput)
    (into : Option Target) :
    (c.getAll v s transaction keys into).Sends (c.AsksLookup transaction) :=
  .bind (c.sends_lookup v transaction keys) fun _ => .ofOutcome _

theorem sends_get (s : Schema) (transaction : Option Bytes) (key : KeyInput)
    (into : Option Target) :
    (c.get v s transaction key into).Sends (c.AsksLookup transaction) :=
  .bind (c.sends_getAll v s transaction [key] into) fun _ => .pure _

/-- The induction is on the rounds that are left; every page is asked for by one call. -/
theorem sends_queryPages (transaction : Option Bytes) (query : Query) {compiled : Wire.Query}
    (hcompiled : query.compile c.projectId = .ok compiled) (rounds : Nat) :
    ∀ cursor, (c.queryPages v transaction query compiled rounds cursor).Sends
      (c.AsksPage transaction query) := by
  induction rounds with
  | zero =>
    intro cursor
    exact .ofOutcome _
  | succ rounds ih =>
    intro cursor
    refine .bind (.call v ⟨compiled, cursor, hcompiled, rfl⟩) fun page => ?_
    refine .bind (.ofOutcome _) fun entities => ?_
    refine .ite (.ofOutcome _) (.ite (.pure _) (.ite (.ofOutcome _) ?_))
    exact .bind (ih page.endCursor) fun more => .pure _

theorem sends_runQuery (transaction : Option Bytes) (query : Query) :
    (c.runQuery v transaction query).Sends (c.AsksPage transaction query) :=
  .ofOutcome_bind fun _ hcompiled => c.sends_queryPages v transaction query hcompiled _ _

theorem sends_commit (transaction : Option Bytes) (mutations : List Mutation) :
    (c.commit v transaction mutations).Sends (c.AsksCommit transaction mutations) :=
  .call v rfl

theorem sends_putAll (s : Schema) (objects : List Native) :
    (c.putAll v s objects).Sends fun q =>
      ∃ ms, c.compilePuts s false objects = .ok ms ∧ c.AsksCommit none ms q := by
  refine .ofOutcome_bind fun ms hms => .ite (.pure _) ?_
  refine .bind ((c.sends_commit v none ms).mono fun q hq => ⟨ms, hms, hq⟩) fun response => ?_
  exact .ofOutcome _

theorem sends_put (s : Schema) (object : Native) :
    (c.put v s object).Sends fun q =>
      ∃ ms, c.compilePuts s false [object] = .ok ms ∧ c.AsksCommit none ms q :=
  .bind (c.sends_putAll v s [object]) fun _ => .pure _

theorem sends_deleteAll (keys : List KeyInput) :
    (c.deleteAll v keys).Sends fun q =>
      ∃ ms, keys.mapM c.compileDelete = .ok ms ∧ c.AsksCommit none ms q := by
  refine .ofOutcome_bind fun ms hms => .ite (.pure _) ?_
  exact .bind ((c.sends_commit v none ms).mono fun q hq => ⟨ms, hms, hq⟩) fun response => .pure _

theorem sends_begin (mode : TransactionMode) (previous : Option Bytes) :
    (c.begin v mode previous).Sends fun q => ∃ options, mode.options previous = .ok options ∧
      q = ⟨.beginTransaction, Wire.BeginTransactionRequest.mk c.projectId options⟩ := by
  refine .ofOutcome_bind fun options hoptions => ?_
  exact .bind (.call v ⟨options, hoptions, rfl⟩) fun id => .pure _

end Client

end EntityStore
