import EntityStore.Proofs.Activity

/-!
# The channel behind a record

A record of events shows which channel is open at its end. All channels of a client are opened by
its one transport, and a request is sent only while one of them is open.

* `Transport.Opening`, `Transport.Closing` — all that opening and closing can do to a session;
* `Client.connect_keeps`, `Client.close_keeps` — what connecting keeps, and what closing keeps;
* `Event.channel` — the channel that a record leaves open;
* `Session.Traces` — the record shows the connection as it is, and every request in it has gone over
  a channel of one transport;
* `Activity.traces_run` — this holds of every run.
-/

namespace EntityStore

variable {σ : Type}

/-! ### Opening and closing -/

namespace Transport

/-- All that opening the channel can do to a session: an open channel is kept; else the channel is
refused, or it is there, bare if the stub on it is refused. -/
inductive Opening (t : Transport) (v : Service σ) (s : Session σ) : Outcome Unit × Session σ → Prop
  | kept (hchannel : s.hasChannel = true) : Opening t v s (.ok (), s)
  | refused {e : Error} {w : σ} (hchannel : s.hasChannel = false)
      (hopen : v.openChannel s.world = (.error e, w)) :
      Opening t v s (.error e, { s with world := w })
  | bare {e : Error} {w w' : σ} (hchannel : s.hasChannel = false)
      (hopen : v.openChannel s.world = (.ok (), w)) (hstub : v.buildStub w = (.error e, w')) :
      Opening t v s (.error e,
        { s with world := w', hasChannel := true,
                 events := s.events ++ [.opened t.address t.isSecure t.maxMessageSize] })
  | ready {w w' : σ} (hchannel : s.hasChannel = false)
      (hopen : v.openChannel s.world = (.ok (), w)) (hstub : v.buildStub w = (.ok (), w')) :
      Opening t v s (.ok (),
        { s with world := w', hasChannel := true, hasStub := true,
                 events := s.events ++ [.opened t.address t.isSecure t.maxMessageSize] })

theorem opening (t : Transport) (v : Service σ) (s : Session σ) :
    t.Opening v s (t.openChannel v s) := by
  rw [openChannel, Action.bind_of_ok _ (Action.state_apply s)]
  by_cases hchannel : s.hasChannel = true
  · rw [if_pos hchannel]
    exact .kept hchannel
  · have hnone : s.hasChannel = false := Bool.eq_false_iff.mpr hchannel
    rw [if_neg hchannel]
    cases hopen : v.openChannel s.world with
    | mk r w =>
      have hfirst : Action.outside v.openChannel s = (r, { s with world := w }) := by
        rw [Action.outside, hopen]
      cases r with
      | error e =>
        rw [Action.bind_of_error _ hfirst]
        exact .refused hnone hopen
      | ok _ =>
        rw [Action.bind_of_ok _ hfirst]
        cases hstub : v.buildStub w with
        | mk r' w' =>
          cases r' with
          | error e =>
            have hbare := Opening.bare (t := t) hnone hopen hstub
            simpa [Action.bind_apply, Action.record, Action.outside, hstub] using hbare
          | ok _ =>
            have hready := Opening.ready (t := t) hnone hopen hstub
            simpa [Action.bind_apply, Action.record, Action.outside, hstub] using hready

/-- All that closing the channel can do to a session: without a channel there is nothing to do, and
a channel that cannot be closed stays as it is. -/
inductive Closing (v : Service σ) (s : Session σ) : Outcome Unit × Session σ → Prop
  | absent (hchannel : s.hasChannel = false) : Closing v s (.ok (), s)
  | refused {e : Error} {w : σ} (hchannel : s.hasChannel = true)
      (hclose : v.closeChannel s.world = (.error e, w)) :
      Closing v s (.error e, { s with world := w })
  | done {w : σ} (hchannel : s.hasChannel = true) (hclose : v.closeChannel s.world = (.ok (), w)) :
      Closing v s (.ok (), { s with world := w, hasChannel := false, hasStub := false,
                                    events := s.events ++ [.closed] })

theorem closing (v : Service σ) (s : Session σ) : Closing v s (closeChannel v s) := by
  rw [closeChannel, Action.bind_of_ok _ (Action.state_apply s)]
  by_cases hchannel : s.hasChannel = true
  · rw [if_pos hchannel]
    cases hclose : v.closeChannel s.world with
    | mk r w =>
      cases r with
      | error e =>
        have hrefused := Closing.refused hchannel hclose
        simpa [Action.bind_apply, Action.outside, hclose] using hrefused
      | ok _ =>
        have hdone := Closing.done hchannel hclose
        simpa [Action.bind_apply, Action.record, Action.outside, hclose] using hdone
  · rw [if_neg hchannel]
    exact .absent (Bool.eq_false_iff.mpr hchannel)

end Transport

namespace Client

variable {v : Service σ} {s : Session σ} {P : Session σ → Prop}

/-- What opening the channel keeps, connecting keeps, if the flag of the client is of no concern. -/
theorem connect_keeps (c : Client) (h : P s) (hopen : P (c.transport.openChannel v s).2)
    (hflag : ∀ t, P t → P { t with isConnected := true }) : P (c.connect v s).2 := by
  by_cases hconnected : s.isConnected = true
  · rw [connect, if_pos hconnected]
    exact h
  · rw [connect, if_neg hconnected]
    cases hstep : c.transport.openChannel v s with
    | mk r t =>
      rw [hstep] at hopen
      cases r with
      | error e => exact hopen
      | ok _ => exact hflag t hopen

theorem close_keeps (h : P s) (hclose : P (Transport.closeChannel v s).2)
    (hflag : ∀ t, P t → P { t with isConnected := false }) : P (close v s).2 := by
  rw [close, Action.bind_of_ok _ (Action.state_apply s)]
  by_cases hconnected : s.isConnected = true
  · rw [if_pos hconnected, Action.bind_apply]
    cases hstep : Transport.closeChannel v s with
    | mk r t =>
      rw [hstep] at hclose
      cases r with
      | error e => exact hclose
      | ok _ => exact hflag t hclose
  · rw [if_neg hconnected]
    exact h

end Client

/-! ### Records -/

namespace Event

/-- The channel that is open behind an event, by the transport that has opened it. -/
def affect (before : Option Transport) : Event → Option Transport
  | opened address isSecure size => some ⟨address, isSecure, size⟩
  | closed => none
  | asked _ | sent _ _ _ => before

/-- The channel that a record leaves open. -/
def channel (events : List Event) : Option Transport :=
  events.foldl affect none

theorem channel_snoc (events : List Event) (e : Event) :
    channel (events ++ [e]) = affect (channel events) e := by
  rw [channel, List.foldl_append]
  rfl

/-- Tokens and requests leave the channel as it is. -/
theorem channel_append {new : List Event} (hnew : ∀ e ∈ new, ∀ before, affect before e = before)
    (events : List Event) : channel (events ++ new) = channel events := by
  induction new generalizing events with
  | nil => rw [List.append_nil]
  | cons e new ih =>
    rw [List.append_cons, ih fun e' he' => hnew e' (List.mem_cons_of_mem e he'), channel_snoc,
      hnew e List.mem_cons_self]

/-- Every request in a record has been sent while a channel of the transport was open. -/
def SentOver (t : Transport) (events : List Event) : Prop :=
  ∀ front m request metadata back, events = front ++ .sent m request metadata :: back →
    channel front = some t

/-- A record that is continued: its requests are those of its parts. -/
theorem SentOver.append {t : Transport} {events new : List Event} (h : SentOver t events)
    (hnew : ∀ front m request metadata back, new = front ++ .sent m request metadata :: back →
      channel (events ++ front) = some t) : SentOver t (events ++ new) := by
  intro front m request metadata back hsplit
  rcases List.append_eq_append_iff.mp hsplit with ⟨between, rfl, hafter⟩ | ⟨rest, hbefore, hrest⟩
  · exact hnew between m request metadata back hafter
  · cases rest with
    | nil =>
      have hhere := hnew [] m request metadata back hrest.symm
      rw [List.append_nil] at hbefore hhere
      rwa [← hbefore]
    | cons e rest =>
      obtain ⟨rfl, -⟩ := List.cons.inj hrest
      exact h front m request metadata rest hbefore

end Event

/-! ### Sessions -/

/-- The record of a session shows its connection as it is: every channel in it is one of the
transport, the last one is open if there is a channel, and all requests have gone over an open
one. -/
structure Session.Traces (t : Transport) (s : Session σ) : Prop where
  channel : Event.channel s.events = if s.hasChannel then some t else none
  stub : s.hasStub = true → s.hasChannel = true
  opened : ∀ address isSecure size, .opened address isSecure size ∈ s.events →
    (⟨address, isSecure, size⟩ : Transport) = t
  sent : Event.SentOver t s.events

namespace Session.Traces

variable {α : Type} {t : Transport} {x y : Session σ}

theorem start (t : Transport) (world : σ) : (Session.start world).Traces t := by
  refine ⟨rfl, nofun, ?_, ?_⟩
  · intro address isSecure size h
    cases h
  · intro front m request metadata back h
    cases front <;> cases h

/-- What leaves the record and the channel alone keeps the trace. -/
theorem keep (h : x.Traces t) (hevents : y.events = x.events)
    (hchannel : y.hasChannel = x.hasChannel) (hstub : y.hasStub = x.hasStub) : y.Traces t := by
  refine ⟨?_, ?_, ?_, ?_⟩
  · rw [hevents, hchannel, h.channel]
  · rw [hstub, hchannel]
    exact h.stub
  · rw [hevents]
    exact h.opened
  · rw [hevents]
    exact h.sent

/-- An event that is no request. -/
theorem sentOver_snoc (h : x.Traces t) {e : Event} (he : e.request? = none) :
    Event.SentOver t (x.events ++ [e]) := by
  refine h.sent.append ?_
  intro front m request metadata back hsplit
  have hmem : .sent m request metadata ∈ [e] := by
    rw [hsplit]
    exact List.mem_append_right front List.mem_cons_self
  rw [← List.mem_singleton.mp hmem] at he
  cases he

theorem opens (h : x.Traces t)
    (hevents : y.events = x.events ++ [.opened t.address t.isSecure t.maxMessageSize])
    (hchannel : y.hasChannel = true) : y.Traces t := by
  refine ⟨?_, fun _ => hchannel, ?_, ?_⟩
  · rw [hevents, Event.channel_snoc, hchannel]
    rfl
  · intro address isSecure size hmem
    rw [hevents] at hmem
    rcases List.mem_append.mp hmem with hold | hnew
    · exact h.opened address isSecure size hold
    · cases List.mem_singleton.mp hnew
      rfl
  · rw [hevents]
    exact h.sentOver_snoc rfl

theorem closes (h : x.Traces t) (hevents : y.events = x.events ++ [.closed])
    (hchannel : y.hasChannel = false) (hstub : y.hasStub = false) : y.Traces t := by
  refine ⟨?_, ?_, ?_, ?_⟩
  · rw [hevents, Event.channel_snoc, hchannel]
    rfl
  · rw [hstub]
    nofun
  · intro address isSecure size hmem
    rw [hevents] at hmem
    rcases List.mem_append.mp hmem with hold | hnew
    · exact h.opened address isSecure size hold
    · cases List.mem_singleton.mp hnew
  · rw [hevents]
    exact h.sentOver_snoc rfl

/-- Dispatches leave the channel as it is. Each of them needs a stub, and a stub stands on a
channel. -/
theorem dispatches {P : Wire.AnyRequest → Prop} {r : Outcome α} (h : x.Traces t)
    (hdone : Dispatches P x r y) : y.Traces t := by
  obtain ⟨ds, last, hevents, hds, hlast, hkept⟩ := hdone
  have hchannel : y.hasChannel = x.hasChannel := congrArg (·.1) hkept
  have hstub : y.hasStub = x.hasStub := congrArg (·.2.1) hkept
  have hnew (e : Event) (he : e ∈ ds.flatMap Dispatch.events ++ last) :
      (∃ granted, e = .asked granted) ∨
        (∃ m request metadata, e = .sent m request metadata) ∧ x.hasStub = true := by
    rcases List.mem_append.mp he with hsent | hend
    · obtain ⟨d, hd, hmem⟩ := List.mem_flatMap.mp hsent
      rcases List.mem_pair.mp hmem with rfl | rfl
      · exact .inl ⟨_, rfl⟩
      · exact .inr ⟨⟨_, _, _, rfl⟩, (hds d hd).2⟩
    · cases hlast with
      | complete => cases hend
      | refused => exact .inl ⟨_, List.mem_singleton.mp hend⟩
      | unconnected => exact .inl ⟨_, List.mem_singleton.mp hend⟩
  have hquiet (e : Event) (he : e ∈ ds.flatMap Dispatch.events ++ last)
      (before : Option Transport) : e.affect before = before := by
    rcases hnew e he with ⟨granted, rfl⟩ | ⟨⟨m, request, metadata, rfl⟩, -⟩
    · rfl
    · rfl
  generalize ds.flatMap Dispatch.events ++ last = new at hevents hnew hquiet
  refine ⟨?_, ?_, ?_, ?_⟩
  · rw [hevents, Event.channel_append hquiet, h.channel, hchannel]
  · rw [hstub, hchannel]
    exact h.stub
  · intro address isSecure size hmem
    rw [hevents] at hmem
    rcases List.mem_append.mp hmem with hold | hadded
    · exact h.opened address isSecure size hold
    · rcases hnew _ hadded with ⟨granted, heq⟩ | ⟨⟨m, request, metadata, heq⟩, -⟩
      · cases heq
      · cases heq
  · rw [hevents]
    refine h.sent.append ?_
    rintro front m request metadata back rfl
    have hsent := hnew (.sent m request metadata) (List.mem_append_right front List.mem_cons_self)
    rcases hsent with ⟨granted, heq⟩ | ⟨-, hhas⟩
    · cases heq
    · rw [Event.channel_append fun e he => hquiet e (List.mem_append_left _ he), h.channel,
        h.stub hhas, if_pos rfl]

theorem openChannel (h : x.Traces t) (v : Service σ) : (t.openChannel v x).2.Traces t := by
  have hopening := t.opening v x
  generalize t.openChannel v x = result at hopening
  cases hopening with
  | kept => exact h
  | refused => exact h.keep rfl rfl rfl
  | bare => exact h.opens rfl rfl
  | ready => exact h.opens rfl rfl

theorem closeChannel (h : x.Traces t) (v : Service σ) :
    (Transport.closeChannel v x).2.Traces t := by
  have hclosing := Transport.closing v x
  generalize Transport.closeChannel v x = result at hclosing
  cases hclosing with
  | absent => exact h
  | refused => exact h.keep rfl rfl rfl
  | done => exact h.closes rfl rfl rfl

theorem connect {c : Client} (h : x.Traces c.transport) (v : Service σ) :
    (c.connect v x).2.Traces c.transport :=
  c.connect_keeps h (h.openChannel v) fun _ hy => hy.keep rfl rfl rfl

theorem close (h : x.Traces t) (v : Service σ) : (Client.close v x).2.Traces t :=
  Client.close_keeps h (h.closeChannel v) fun _ hy => hy.keep rfl rfl rfl

end Session.Traces

/-! ### Runs -/

namespace Activity

variable {c : Client} {v : Service σ} {s : Schema} {x : Activity σ}

/-- **What one operation keeps.** -/
theorem traces_perform (op : Operation) (h : x.session.Traces c.transport) :
    (perform c v s op x).2.session.Traces c.transport := by
  cases hop : op.isConnection with
  | false => exact h.dispatches (dispatches_perform op hop x)
  | true => exact of_isConnection hop (h.connect v) (h.close v) (h.openChannel v) (h.closeChannel v)

/-- **What a run keeps.** -/
theorem traces_run (ops : List Operation) :
    ∀ x : Activity σ, x.session.Traces c.transport →
      (run c v s ops x).session.Traces c.transport := by
  induction ops with
  | nil =>
    intro x h
    exact h
  | cons op rest ih =>
    intro x h
    exact ih _ (traces_perform op h)

end Activity

end EntityStore
