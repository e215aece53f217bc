import EntityStore.Proofs.Channel
import EntityStore.Proofs.Composition

/-!
# Connections that are whole

Whether a client is connected is kept three times: in its own flag, in the channel of its transport
and in the stub on the channel. Operations of the client keep the three together as long as the stub
is built on every channel that is opened; refusals to open or to close the channel do no harm. Then
the last operation that has changed the connection tells whether calls get through.

* `Session.IsWhole` — flag, channel and stub are all there or all missing;
* `Event.AtMostOne`, `Activity.one_run` — never is more than one channel open;
* `Event.UsesTokens`, `Session.carries` — on a stub, every token goes out with its request;
* `Activity.turns_perform`, `Activity.whole_run` — operations and runs keep a connection whole;
* `Activity.CallsReach`, `Activity.CallsFail` — calls that get through, and calls that do not;
* `Activity.connection_whole` — what holds after any operations of a client;
* `Activity.not_connection_whole` — a refused token that hides that there is no connection, and a
  stub that cannot be built.
-/

namespace EntityStore

variable {σ : Type} {c : Client} {v : Service σ} {s : Schema}

/-! ### Whole connections -/

namespace Session

/-- The client is connected, and there are a channel and a stub on it. -/
def IsOn (x : Session σ) : Prop := x.connection = (true, true, true)

/-- The client is not connected, and there is neither a channel nor a stub. -/
def IsOff (x : Session σ) : Prop := x.connection = (false, false, false)

/-- The flag of the client, the channel and the stub are all there or all missing. -/
def IsWhole (x : Session σ) : Prop := x.IsOn ∨ x.IsOff

/-- If the channel is opened now, the stub is built on it. -/
def Builds (v : Service σ) (x : Session σ) : Prop :=
  x.hasChannel = false → ∀ w, v.openChannel x.world = (.ok (), w) → (v.buildStub w).1 = .ok ()

variable {x y : Session σ}

theorem isOn_iff : x.IsOn ↔ x.hasChannel = true ∧ x.hasStub = true ∧ x.isConnected = true := by
  simp [IsOn, connection]

theorem isOff_iff : x.IsOff ↔ x.hasChannel = false ∧ x.hasStub = false ∧ x.isConnected = false := by
  simp [IsOff, connection]

theorem IsOff.not_isOn (h : x.IsOff) : ¬ x.IsOn := by
  intro hon
  rw [IsOn, h] at hon
  cases hon

end Session

/-! ### Connecting and closing -/

namespace Client

variable {x : Session σ}

theorem connect_of_on (h : x.IsOn) : c.connect v x = (.ok (), x) := by
  rw [connect, if_pos (Session.isOn_iff.mp h).2.2]

/-- Without a connection, the channel is refused, or the stub on it is, or the client is connected
afterwards. -/
theorem connect_of_off (c : Client) (v : Service σ) (h : x.IsOff) :
    (∃ e w, v.openChannel x.world = (.error e, w) ∧ (c.connect v x).2.IsOff) ∨
      (∃ w e, v.openChannel x.world = (.ok (), w) ∧ (v.buildStub w).1 = .error e) ∨
      (c.connect v x).1 = .ok () ∧ (c.connect v x).2.IsOn := by
  obtain ⟨hchannel, hstub, hflag⟩ := Session.isOff_iff.mp h
  have hopening := c.transport.opening v x
  rw [connect, if_neg (by simp [hflag])]
  generalize c.transport.openChannel v x = result at hopening
  cases hopening with
  | kept hthere => simp [hchannel] at hthere
  | refused _ hopen => exact .inl ⟨_, _, hopen, h⟩
  | bare _ hopen hbuild => exact .inr (.inl ⟨_, _, hopen, congrArg Prod.fst hbuild⟩)
  | ready _ hopen hbuild => exact .inr (.inr ⟨rfl, rfl⟩)

theorem close_of_off (h : x.IsOff) : close v x = (.ok (), x) := by
  rw [close, Action.bind_of_ok _ (Action.state_apply x),
    if_neg (by simp [(Session.isOff_iff.mp h).2.2])]
  rfl

/-- A channel that cannot be closed leaves the client connected. -/
theorem close_of_on (v : Service σ) (h : x.IsOn) : (close v x).2.IsOn ∨ (close v x).2.IsOff := by
  obtain ⟨hchannel, hstub, hflag⟩ := Session.isOn_iff.mp h
  have hclosing := Transport.closing v x
  rw [close, Action.bind_of_ok _ (Action.state_apply x), if_pos hflag, Action.bind_apply]
  generalize Transport.closeChannel v x = result at hclosing
  cases hclosing with
  | absent hnone => simp [hchannel] at hnone
  | refused => exact .inl h
  | done => exact .inr rfl

end Client

/-! ### Records -/

namespace Event

/-- The number of open channels behind an event. -/
def count (before : Nat) : Event → Nat
  | opened _ _ _ => before + 1
  | closed => before - 1
  | asked _ | sent _ _ _ => before

/-- The number of channels that a record leaves open. -/
def openChannels (events : List Event) : Nat := events.foldl count 0

/-- At no time in a record is more than one channel open. -/
def AtMostOne (events : List Event) : Prop :=
  ∀ front back, events = front ++ back → openChannels front ≤ 1

/-- Every token in a record is refused or goes out at once, with the request that it is for. -/
inductive UsesTokens : List Event → Prop
  | nil : UsesTokens []
  | refused (e : Error) {rest : List Event} (hrest : UsesTokens rest) :
      UsesTokens (.asked (.error e) :: rest)
  | granted (token : String) {m : Wire.Method} (request : Wire.Request m) {rest : List Event}
      (hrest : UsesTokens rest) :
      UsesTokens (.asked (.ok token) :: .sent m request (Transport.authorization token) :: rest)

theorem openChannels_snoc (events : List Event) (e : Event) :
    openChannels (events ++ [e]) = count (openChannels events) e := by
  simp [openChannels]

theorem AtMostOne.snoc {events : List Event} {e : Event} (h : AtMostOne events)
    (he : openChannels (events ++ [e]) ≤ 1) : AtMostOne (events ++ [e]) := by
  intro front back hsplit
  rcases List.eq_nil_or_concat' back with rfl | ⟨back, e', rfl⟩
  · rw [List.append_nil] at hsplit
    rwa [← hsplit]
  · rw [← List.append_assoc] at hsplit
    exact h front back (List.append_inj_left' hsplit rfl)

theorem openChannels_append {new : List Event} (hnew : ∀ e ∈ new, ¬ e.IsConnection)
    (events : List Event) : openChannels (events ++ new) = openChannels events := by
  induction new generalizing events with
  | nil => rw [List.append_nil]
  | cons e new ih =>
    obtain ⟨he, hrest⟩ := List.forall_mem_cons.mp hnew
    rw [List.append_cons, ih hrest, openChannels_snoc]
    cases e with
    | opened _ _ _ | closed => exact absurd trivial he
    | asked _ | sent _ _ _ => rfl

/-- Tokens and requests open no channel. -/
theorem AtMostOne.append {events new : List Event} (h : AtMostOne events)
    (hnew : ∀ e ∈ new, ¬ e.IsConnection) : AtMostOne (events ++ new) := by
  intro front back hsplit
  rcases List.append_eq_append_iff.mp hsplit with ⟨between, rfl, rfl⟩ | ⟨rest, rfl, rfl⟩
  · rw [openChannels_append fun e he => hnew e (List.mem_append_left _ he)]
    exact h events [] (by simp)
  · exact h front rest rfl

theorem UsesTokens.append {events new : List Event} (h : UsesTokens events)
    (hnew : UsesTokens new) : UsesTokens (events ++ new) := by
  induction h with
  | nil => exact hnew
  | refused e _ ih => exact .refused e ih
  | granted token request _ ih => exact .granted token request ih

end Event

/-! ### Sessions -/

namespace Session

variable {x y : Session σ}

/-- What calls make of a session: they add tokens and requests to its record, on a stub every token
with its request, and leave the connection as it is. -/
def Carried (x y : Session σ) : Prop :=
  ∃ new, y.events = x.events ++ new ∧ (∀ e ∈ new, ¬ e.IsConnection) ∧
    y.connection = x.connection ∧ (x.hasStub = true → Event.UsesTokens new)

theorem carries (v : Service σ) : v.Carries Carried where
  refl x := ⟨[], by simp, by simp, rfl, fun _ => .nil⟩
  trans := by
    rintro x y z ⟨new, hy, hnew, hkept, huses⟩ ⟨more, hz, hmore, hkept', huses'⟩
    have hstub : y.hasStub = x.hasStub := congrArg (·.2.1) hkept
    refine ⟨new ++ more, ?_, ?_, hkept'.trans hkept, ?_⟩
    · rw [hz, hy, List.append_assoc]
    · intro e he
      exact (List.mem_append.mp he).elim (hnew e) (hmore e)
    · intro h
      exact (huses h).append (huses' (hstub.trans h))
  call := by
    intro m request x
    cases htoken : v.token x.world with
    | mk granted w =>
      cases granted with
      | error e =>
        rw [Transport.call_refused request htoken]
        refine ⟨_, rfl, ?_, rfl, fun _ => .refused e .nil⟩
        simp [Event.IsConnection]
      | ok token =>
        cases hstub : x.hasStub with
        | false =>
          rw [Transport.call_unconnected request htoken hstub]
          refine ⟨_, rfl, ?_, by simp [connection, hstub], fun h => ?_⟩
          · simp [Event.IsConnection]
          · cases hstub.symm.trans h
        | true =>
          rw [Transport.call_answered request htoken hstub]
          refine ⟨_, List.append_assoc _ _ _, ?_, by simp [connection, hstub], fun _ => ?_⟩
          · simp [Event.IsConnection]
          · exact .granted token request .nil

/-- The record of a session leaves a channel open if there is one, and never leaves more open. -/
structure HasOne (x : Session σ) : Prop where
  count : Event.openChannels x.events = if x.hasChannel then 1 else 0
  atMostOne : Event.AtMostOne x.events

namespace HasOne

theorem start (world : σ) : (Session.start world).HasOne := by
  refine ⟨rfl, ?_⟩
  intro front back hsplit
  rw [(List.append_eq_nil_iff.mp hsplit.symm).1]
  exact Nat.zero_le 1

/-- What leaves the record and the channel alone. -/
theorem keep (h : x.HasOne) (hevents : y.events = x.events)
    (hchannel : y.hasChannel = x.hasChannel) : y.HasOne := by
  refine ⟨?_, ?_⟩
  · rw [hevents, hchannel, h.count]
  · rw [hevents]
    exact h.atMostOne

/-- An event that brings the record into line with the channel. -/
theorem snoc (h : x.HasOne) {e : Event} (hevents : y.events = x.events ++ [e])
    (he : Event.count (Event.openChannels x.events) e = if y.hasChannel then 1 else 0) :
    y.HasOne := by
  rw [← Event.openChannels_snoc] at he
  refine ⟨?_, ?_⟩
  · rw [hevents, he]
  · rw [hevents]
    refine h.atMostOne.snoc ?_
    rw [he]
    split <;> decide

theorem carried (h : x.HasOne) (hxy : x.Carried y) : y.HasOne := by
  obtain ⟨new, hevents, hnew, hkept, -⟩ := hxy
  have hchannel : y.hasChannel = x.hasChannel := congrArg (·.1) hkept
  refine ⟨?_, ?_⟩
  · rw [hevents, Event.openChannels_append hnew, hchannel, h.count]
  · rw [hevents]
    exact h.atMostOne.append hnew

/-- A channel is opened only where there is none. -/
theorem openChannel (h : x.HasOne) (t : Transport) (v : Service σ) :
    (t.openChannel v x).2.HasOne := by
  have hnone (hchannel : x.hasChannel = false) : Event.openChannels x.events = 0 := by
    rw [h.count, hchannel]
    rfl
  have hopening := t.opening v x
  generalize t.openChannel v x = result at hopening
  cases hopening with
  | kept => exact h
  | refused => exact h.keep rfl rfl
  | bare hchannel | ready hchannel => exact h.snoc rfl (by rw [hnone hchannel]; rfl)

theorem closeChannel (h : x.HasOne) (v : Service σ) : (Transport.closeChannel v x).2.HasOne := by
  have hclosing := Transport.closing v x
  generalize Transport.closeChannel v x = result at hclosing
  cases hclosing with
  | absent => exact h
  | refused => exact h.keep rfl rfl
  | done hchannel => exact h.snoc rfl (by rw [h.count, hchannel]; rfl)

theorem connect (h : x.HasOne) (c : Client) (v : Service σ) : (c.connect v x).2.HasOne :=
  c.connect_keeps h (h.openChannel c.transport v) fun _ hy => hy.keep rfl rfl

theorem close (h : x.HasOne) (v : Service σ) : (Client.close v x).2.HasOne :=
  Client.close_keeps h (h.closeChannel v) fun _ hy => hy.keep rfl rfl

end HasOne

end Session

/-! ### Operations and runs -/

/-- An operation on the transport itself, past the client. -/
def Operation.isDirect : Operation → Bool
  | .openChannel | .closeChannel => true
  | _ => false

namespace Activity

variable {x : Activity σ}

theorem carried_perform (op : Operation) (hop : op.isConnection = false) (x : Activity σ) :
    x.session.Carried (perform c v s op x).2.session :=
  relates_perform (Session.carries v) op hop x

/-- **No operation opens a second channel.** -/
theorem one_perform (op : Operation) (h : x.session.HasOne) :
    (perform c v s op x).2.session.HasOne := by
  cases hop : op.isConnection with
  | false => exact h.carried (carried_perform op hop x)
  | true =>
    exact of_isConnection hop (h.connect c v) (h.close v) (h.openChannel c.transport v)
      (h.closeChannel v)

/-- **At no time of a run is more than one channel open.** -/
theorem one_run (ops : List Operation) :
    ∀ x : Activity σ, x.session.HasOne → (run c v s ops x).session.HasOne := by
  induction ops with
  | nil =>
    intro x h
    exact h
  | cons op rest ih =>
    intro x h
    exact ih _ (one_perform op h)

/-- All that an operation of a client can do to a whole connection. -/
inductive Turns (op : Operation) (x y : Session σ) : Prop
  | stays (hkept : y.connection = x.connection)
  | connects (hop : op = .connect) (hbefore : x.IsOff) (hafter : y.IsOn)
  | closes (hop : op = .close) (hbefore : x.IsOn) (hafter : y.IsOff)

namespace Turns

variable {op : Operation} {x y : Session σ}

theorem isWhole (h : Turns op x y) (hx : x.IsWhole) : y.IsWhole := by
  cases h with
  | stays hkept =>
    rw [Session.IsWhole, Session.IsOn, Session.IsOff, hkept]
    exact hx
  | connects _ _ hafter => exact .inl hafter
  | closes _ _ hafter => exact .inr hafter

theorem isOn_iff (h : Turns op x y) (hchanged : y.connection ≠ x.connection) :
    y.IsOn ↔ op = .connect := by
  cases h with
  | stays hkept => exact absurd hkept hchanged
  | connects hop _ hafter => exact iff_of_true hafter hop
  | closes hop _ hafter =>
    refine iff_of_false hafter.not_isOn ?_
    rw [hop]
    nofun

end Turns

theorem turns_perform (op : Operation) (hdirect : op.isDirect = false) (hx : x.session.IsWhole)
    (hbuilds : op = .connect → x.session.Builds v) :
    Turns op x.session (perform c v s op x).2.session := by
  cases hop : op.isConnection with
  | false =>
    obtain ⟨new, -, -, hkept, -⟩ := carried_perform (c := c) (v := v) (s := s) op hop x
    exact .stays hkept
  | true =>
    cases op with
    | connect =>
      rw [perform, session_onSession]
      rcases hx with hon | hoff
      · rw [Client.connect_of_on hon]
        exact .stays rfl
      · rcases Client.connect_of_off c v hoff with
          ⟨e, w, hopen, hafter⟩ | ⟨w, e, hopen, hstub⟩ | ⟨-, hafter⟩
        · exact .stays (hafter.trans hoff.symm)
        · -- the stub is built on every channel
          have hbuilt := hbuilds rfl (Session.isOff_iff.mp hoff).1 w hopen
          rw [hstub] at hbuilt
          cases hbuilt
        · exact .connects rfl hoff hafter
    | close =>
      rw [perform, session_onSession]
      rcases hx with hon | hoff
      · rcases Client.close_of_on v hon with hafter | hafter
        · exact .stays (hafter.trans hon.symm)
        · exact .closes rfl hon hafter
      · rw [Client.close_of_off hoff]
        exact .stays rfl
    | openChannel | closeChannel => cases hdirect
    | _ => cases hop

/-- The operations that have changed the connection, in order. -/
def switches (c : Client) (v : Service σ) (s : Schema) (ops : List Operation) (x : Activity σ) :
    List Operation :=
  ((trace c v s ops x).filter fun e =>
    (perform c v s e.1 e.2).2.session.connection != e.2.session.connection).map (·.1)

theorem switches_cons (op : Operation) (rest : List Operation) (x : Activity σ) :
    switches c v s (op :: rest) x =
      if (perform c v s op x).2.session.connection = x.session.connection then
        switches c v s rest (perform c v s op x).2
      else op :: switches c v s rest (perform c v s op x).2 := by
  rw [switches, trace, List.filter_cons]
  by_cases hkept : (perform c v s op x).2.session.connection = x.session.connection
  · rw [if_pos hkept, if_neg (by simp [hkept])]
    rfl
  · rw [if_neg hkept, if_pos (by simp [hkept])]
    rfl

/-- The last operation that has changed the connection is the first one, unless there is another. -/
theorem elim_getLast?_cons (op : Operation) (later : List Operation) (before : Prop) :
    (op :: later).getLast?.elim before (· = .connect) =
      later.getLast?.elim (op = .connect) (· = .connect) := by
  rw [List.getLast?_cons]
  cases later.getLast? <;> rfl

/-- **Runs of a client keep a connection whole.** It is there afterwards if the last operation that
has changed it has connected; if none has changed it, it is there if it was before. -/
theorem whole_run (ops : List Operation) :
    ∀ x : Activity σ, x.session.IsWhole → (∀ op ∈ ops, op.isDirect = false) →
      (∀ e ∈ trace c v s ops x, e.1 = .connect → e.2.session.Builds v) →
        (run c v s ops x).session.IsWhole ∧
          ((run c v s ops x).session.IsOn ↔
            (switches c v s ops x).getLast?.elim x.session.IsOn (· = .connect)) := by
  induction ops with
  | nil =>
    intro x hx _ _
    exact ⟨hx, Iff.rfl⟩
  | cons op rest ih =>
    intro x hx hdirect hbuilds
    obtain ⟨hop, hrest⟩ := List.forall_mem_cons.mp hdirect
    obtain ⟨hbuildsOp, hbuildsRest⟩ := List.forall_mem_cons.mp hbuilds
    have hturns := turns_perform (c := c) (s := s) op hop hx hbuildsOp
    obtain ⟨hwhole, hon⟩ := ih _ (hturns.isWhole hx) hrest hbuildsRest
    rw [run_cons, switches_cons]
    refine ⟨hwhole, hon.trans ?_⟩
    by_cases hkept : (perform c v s op x).2.session.connection = x.session.connection
    · rw [if_pos hkept, Session.IsOn, Session.IsOn, hkept]
    · rw [if_neg hkept, elim_getLast?_cons, propext (hturns.isOn_iff hkept)]

/-! ### Calls -/

/-- Calls get through: a call whose token is granted sends its request with it, and of all the
tokens that an operation asks for, none is granted in vain. -/
structure CallsReach (c : Client) (v : Service σ) (s : Schema) (x : Activity σ) : Prop where
  call : ∀ {m : Wire.Method} (request : Wire.Request m) (token : String) (w : σ),
    v.token x.session.world = (.ok token, w) →
      (Transport.call v m request x.session).2.events = x.session.events ++
        [.asked (.ok token), .sent m request (Transport.authorization token)]
  operation : ∀ op : Operation, op.isConnection = false → ∃ new,
    (perform c v s op x).2.session.events = x.session.events ++ new ∧ Event.UsesTokens new

/-- No call gets through: it sends nothing, and fails because there is no connection, unless its
token is refused before. An operation that comes to a call goes no further. -/
structure CallsFail (c : Client) (v : Service σ) (s : Schema) (x : Activity σ) : Prop where
  call : ∀ {m : Wire.Method} (request : Wire.Request m) (granted : Outcome String) (w : σ),
    v.token x.session.world = (granted, w) →
      Transport.call v m request x.session =
        (granted.bind fun _ => .error (.runtime Transport.notConnected),
          { x.session with world := w, events := x.session.events ++ [.asked granted] })
  operation : ∀ op : Operation, op.isConnection = false → ∃ last,
    (perform c v s op x).2.session.events = x.session.events ++ last ∧
      Halt (perform c v s op x).1 last

theorem callsReach (h : x.session.IsOn) : CallsReach c v s x where
  call := by
    intro m request token w htoken
    rw [Transport.call_answered request htoken (Session.isOn_iff.mp h).2.1]
    exact List.append_assoc _ _ _
  operation := by
    intro op hop
    obtain ⟨new, hevents, -, -, huses⟩ := carried_perform (c := c) (v := v) (s := s) op hop x
    exact ⟨new, hevents, huses (Session.isOn_iff.mp h).2.1⟩

theorem callsFail (h : x.session.IsOff) : CallsFail c v s x where
  call := by
    intro m request granted w htoken
    cases granted with
    | error e => exact Transport.call_refused request htoken
    | ok token =>
      exact Transport.call_unconnected request htoken (Session.isOff_iff.mp h).2.1
  operation := by
    intro op hop
    obtain ⟨ds, last, hevents, hds, hlast, -⟩ :=
      dispatches_perform (c := c) (v := v) (s := s) op hop x
    have hnone : ds = [] := by
      refine List.eq_nil_iff_forall_not_mem.mpr fun d hd => ?_
      cases (Session.isOff_iff.mp h).2.1.symm.trans (hds d hd).2
    rw [hnone] at hevents
    exact ⟨last, hevents, hlast⟩

/-- The connection is as the last operation that has changed it, if there is one, has left it. -/
structure Consistent (c : Client) (v : Service σ) (s : Schema) (last : Option Operation)
    (x : Activity σ) : Prop where
  whole : x.session.IsWhole
  reach : last = some .connect → CallsReach c v s x
  fail : last ≠ some .connect → CallsFail c v s x
  again : ∀ w w', v.openChannel x.session.world = (.ok (), w) → v.buildStub w = (.ok (), w') →
    (perform c v s .connect x).1 = .ok .done ∧ CallsReach c v s (perform c v s .connect x).2

/-- Connecting, when nothing is refused. -/
theorem perform_connect_of_isWhole (c : Client) (s : Schema) (hx : x.session.IsWhole) {w w' : σ}
    (hopen : v.openChannel x.session.world = (.ok (), w)) (hbuild : v.buildStub w = (.ok (), w')) :
    (perform c v s .connect x).1 = .ok .done ∧ (perform c v s .connect x).2.session.IsOn := by
  have hconnect : (c.connect v x.session).1 = .ok () ∧ (c.connect v x.session).2.IsOn := by
    rcases hx with hon | hoff
    · rw [Client.connect_of_on hon]
      exact ⟨rfl, hon⟩
    · rcases Client.connect_of_off c v hoff with
        ⟨e, w₁, hopen', -⟩ | ⟨w₁, e, hopen', hbuild'⟩ | hready
      · cases hopen.symm.trans hopen'
      · cases hopen.symm.trans hopen'
        rw [hbuild] at hbuild'
        cases hbuild'
      · exact hready
  rw [perform, Action.seqRight_pure_apply, onSession_apply]
  refine ⟨?_, hconnect.2⟩
  dsimp only
  rw [hconnect.1]
  rfl

theorem consistent {last : Option Operation} (hx : x.session.IsWhole)
    (hon : x.session.IsOn ↔ last = some .connect) : Consistent c v s last x where
  whole := hx
  reach h := callsReach (hon.mpr h)
  fail h := callsFail (hx.resolve_left fun h' => h (hon.mp h'))
  again _ _ hopen hbuild :=
    (perform_connect_of_isWhole c s hx hopen hbuild).imp_right callsReach

/-- **A connection is never half there.** After any operations of a client, whatever was refused, no
more than one channel has been open at a time. If the stub was built whenever a channel was opened,
then the flag of the client, the channel and the stub are all there or all missing, calls get
through if the last operation that has changed this has connected, and fail otherwise, and
connecting makes them get through as soon as nothing is refused. -/
theorem connection_whole (c : Client) (v : Service σ) (s : Schema) (world : σ)
    (ops : List Operation) (hclient : ∀ op ∈ ops, op.isDirect = false) :
    Event.AtMostOne (run c v s ops (.start world)).session.events ∧
      ((∀ e ∈ trace c v s ops (.start world), e.1 = .connect → e.2.session.Builds v) →
        Consistent c v s (switches c v s ops (.start world)).getLast?
          (run c v s ops (.start world))) := by
  refine ⟨(one_run ops _ (.start world)).atMostOne, fun hbuilds => ?_⟩
  obtain ⟨hwhole, hon⟩ := whole_run ops (.start world) (.inr rfl) hclient hbuilds
  refine consistent hwhole (hon.trans ?_)
  cases (switches c v s ops (.start world)).getLast? with
  | none => exact iff_of_false (Session.IsOff.not_isOn rfl) nofun
  | some op => exact Option.some_inj.symm

end Activity

/-! ### Refusals -/

/-- The next outcome of a list, which goes well when it has ended. -/
def Service.next : List (Outcome Unit) → Outcome Unit × List (Outcome Unit)
  | [] => (.ok (), [])
  | r :: rest => (r, rest)

/-- A service that grants every token, has no answers, and says of each step of the connection in
turn whether it is refused. -/
def Service.faltering : Service (List (Outcome Unit)) where
  token w := (.ok (numberedToken 1), w)
  answer _ _ w := (Script.exhausted, w)
  openChannel := next
  buildStub := next
  closeChannel := next

/-- A service that refuses the first token. -/
def Service.refusing : Service Script :=
  .scripted (fun n => if n = 1 then .error (refusedToken n) else .ok (numberedToken n)) [] none

namespace Activity

/-- A client connects when the channel is refused, connects again, and cannot close the channel. -/
theorem connection_whole_refused :
    switches (.ofProject "p") .faltering [] [.connect, .connect, .close]
        (.start [.error (.system "refused"), .ok (), .ok (), .error (.system "busy")]) =
      [.connect] ∧
    (∀ op ∈ [Operation.connect, .connect, .close], op.isDirect = false) ∧
    (∀ e ∈ trace (.ofProject "p") .faltering [] [.connect, .connect, .close]
        (.start [.error (.system "refused"), .ok (), .ok (), .error (.system "busy")]),
      e.1 = .connect → e.2.session.Builds .faltering) ∧
    Consistent (.ofProject "p") .faltering [] (some .connect)
      (run (.ofProject "p") .faltering [] [.connect, .connect, .close]
        (.start [.error (.system "refused"), .ok (), .ok (), .error (.system "busy")])) := by
  have hclient : ∀ op ∈ [Operation.connect, .connect, .close], op.isDirect = false := by
    simp [Operation.isDirect]
  have hbuilds : ∀ e ∈ trace (.ofProject "p") .faltering [] [.connect, .connect, .close]
      (.start [.error (.system "refused"), .ok (), .ok (), .error (.system "busy")]),
      e.1 = .connect → e.2.session.Builds .faltering := by
    refine List.forall_mem_cons.mpr ⟨fun _ => ?_, List.forall_mem_cons.mpr ⟨fun _ => ?_,
      List.forall_mem_cons.mpr ⟨fun hclose => ?_, List.forall_mem_nil _⟩⟩⟩
    · intro _ w hopen
      cases hopen
    · intro _ w hopen
      cases hopen
      rfl
    · cases hclose
  exact ⟨rfl, hclient, hbuilds,
    (connection_whole (.ofProject "p") .faltering [] _ _ hclient).2 hbuilds⟩

/-- A token that is refused first keeps a client from saying that it is not connected. A stub that
cannot be built leaves a channel behind, on which a client connects in vain. -/
theorem not_connection_whole :
    (¬ (Activity.start ⟨0, []⟩ : Activity Script).session.IsOn ∧
      (perform (.ofProject "p") .refusing [] (.begin .default none) (.start ⟨0, []⟩)).1 =
        .error (refusedToken 1) ∧ refusedToken 1 ≠ .runtime Transport.notConnected) ∧
    ¬ (run (.ofProject "p") .faltering [] [.connect]
        (.start [.ok (), .error (.system "no stub")])).session.IsWhole ∧
      (perform (.ofProject "p") .faltering [] .connect (run (.ofProject "p") .faltering []
        [.connect] (.start [.ok (), .error (.system "no stub")]))).1 = .ok .done ∧
      (perform (.ofProject "p") .faltering [] (.begin .default none) (run (.ofProject "p")
        .faltering [] [.connect, .connect] (.start [.ok (), .error (.system "no stub")]))).1 =
        .error (.runtime Transport.notConnected) := by
  refine ⟨⟨nofun, rfl, nofun⟩, ?_, rfl, rfl⟩
  rintro (hon | hoff)
  · cases hon
  · cases hoff

end Activity

end EntityStore
