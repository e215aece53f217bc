import EntityStore.Proofs.Activity

/-!
# Every request has a token of its own

In the record of a run, each request stands right behind the token that was asked for on its behalf.
So no token serves two requests, and an operation that is refused a token sends nothing more.

* `Event.Authorized` — a record in which every request carries the token right before it;
* `Activity.authorized_perform`, `Activity.authorized_run` — operations and runs keep it;
* `Activity.requests_have_own_tokens` — what holds of any run against any service.
-/

namespace EntityStore

variable {σ α : Type} {c : Client} {v : Service σ} {s : Schema}

/-! ### Records -/

namespace Event

/-- The metadata of the request that an event sends, if it sends one. -/
def metadata? : Event → Option (List (String × String))
  | sent _ _ metadata => some metadata
  | _ => none

/-- The token that an event grants, if it grants one. -/
def granted? : Event → Option String
  | asked (.ok token) => some token
  | _ => none

/-- Every request stands right behind a token that was granted, and carries it as its only metadata.
Each token that is used up in this way is used once. -/
structure Authorized (events : List Event) : Prop where
  preceded : ∀ i m request metadata, events[i]? = some (sent m request metadata) →
    ∃ j token, i = j + 1 ∧ events[j]? = some (asked (.ok token)) ∧
      metadata = Transport.authorization token
  once : (events.filterMap metadata?).Sublist
    ((events.filterMap granted?).map Transport.authorization)

namespace Authorized

/-- Where nothing is sent there is nothing to authorize. -/
theorem of_silent {events : List Event} (h : ∀ e ∈ events, e.request? = none) :
    Authorized events := by
  have hnone : events.filterMap metadata? = [] := by
    rw [List.filterMap_eq_nil_iff]
    intro e he
    have hsilent := h e he
    cases e with
    | sent m request metadata => cases hsilent
    | asked _ | opened _ _ _ | closed => rfl
  refine ⟨?_, ?_⟩
  · intro i m request metadata hi
    have hsilent := h _ (List.mem_of_getElem? hi)
    cases hsilent
  · rw [hnone]
    exact List.nil_sublist _

/-- A record that is continued has the requests of its parts, each behind its own token. -/
theorem append {front back : List Event} (hfront : Authorized front) (hback : Authorized back) :
    Authorized (front ++ back) := by
  refine ⟨?_, ?_⟩
  · intro i m request metadata hi
    by_cases hlt : i < front.length
    · rw [List.getElem?_append_left hlt] at hi
      obtain ⟨j, token, rfl, hj, hmetadata⟩ := hfront.preceded i m request metadata hi
      refine ⟨j, token, rfl, ?_, hmetadata⟩
      rw [List.getElem?_append_left (by omega)]
      exact hj
    · rw [List.getElem?_append_right (by omega)] at hi
      obtain ⟨j, token, hij, hj, hmetadata⟩ := hback.preceded _ m request metadata hi
      refine ⟨front.length + j, token, by omega, ?_, hmetadata⟩
      rw [List.getElem?_append_right (by omega), Nat.add_sub_cancel_left]
      exact hj
  · rw [List.filterMap_append, List.filterMap_append, List.map_append]
    exact hfront.once.append hback.once

theorem dispatch (d : Dispatch) : Authorized d.events := by
  refine ⟨?_, List.Sublist.refl _⟩
  intro i m request metadata hi
  obtain ⟨token, request'⟩ := d
  rcases i with _ | _ | i
  · cases hi
  · cases hi
    exact ⟨0, token, rfl, rfl, rfl⟩
  · cases hi

theorem dispatches (ds : List Dispatch) : Authorized (ds.flatMap Dispatch.events) := by
  induction ds with
  | nil => exact of_silent (by simp)
  | cons d ds ih => exact (dispatch d).append ih

/-- Behind the last dispatch nothing is sent. -/
theorem halt {r : Outcome α} {last : List Event} (h : Halt r last) : Authorized last := by
  refine of_silent ?_
  intro e he
  cases h with
  | complete => cases he
  | refused => rw [List.mem_singleton.mp he]; rfl
  | unconnected => rw [List.mem_singleton.mp he]; rfl

end Authorized

end Event

/-! ### Operations and runs -/

namespace Activity

variable {x : Activity σ}

/-- **What one operation adds to the record.** Every request in it has a token of its own, and a
token that is refused ends the operation with its error. -/
theorem authorized_perform (op : Operation) (x : Activity σ) :
    ∃ new, (perform c v s op x).2.session.events = x.session.events ++ new ∧
      Event.Authorized new ∧ ∀ front e back, new = front ++ .asked (.error e) :: back →
        back = [] ∧ (perform c v s op x).1 = .error e := by
  cases hop : op.isConnection with
  | true =>
    obtain ⟨new, hnew, hall⟩ := connects_perform (c := c) (v := v) (s := s) op hop x
    refine ⟨new, hnew, .of_silent ?_, ?_⟩
    · intro e he
      have hconnection := hall e he
      cases e with
      | opened _ _ _ | closed => rfl
      | asked _ | sent _ _ _ => exact absurd hconnection id
    · rintro front e back rfl
      have hconnection := hall (.asked (.error e))
        (List.mem_append_right front List.mem_cons_self)
      exact absurd hconnection id
  | false =>
    have hsent := dispatches_perform (c := c) (v := v) (s := s) op hop x
    obtain ⟨ds, last, hafter, -, hlast, -⟩ := hsent
    refine ⟨ds.flatMap Dispatch.events ++ last, hafter, ?_, ?_⟩
    · exact (Event.Authorized.dispatches ds).append (Event.Authorized.halt hlast)
    · intro front e back hnew
      have hsent := dispatches_perform (c := c) (v := v) (s := s) op hop x
      exact hsent.refused (hnew ▸ hafter)

/-- **Runs keep every request behind its own token.** -/
theorem authorized_run (ops : List Operation) :
    ∀ x : Activity σ, Event.Authorized x.session.events →
      Event.Authorized (run c v s ops x).session.events := by
  induction ops with
  | nil =>
    intro x h
    exact h
  | cons op rest ih =>
    intro x h
    obtain ⟨new, hnew, hauthorized, -⟩ := authorized_perform (c := c) (v := v) (s := s) op x
    refine ih _ ?_
    rw [hnew]
    exact h.append hauthorized

/-- **Every request has a token of its own.** After any operations against any service, each request
in the record stands right behind a token that was granted, and carries this token and no other
metadata. The requests use up the granted tokens in their order, each token once. If the next
operation is refused a token, it fails with the error of the refusal, and the refusal is the last
thing that it adds to the record: neither the request that the token was for is sent, nor any
other. -/
theorem requests_have_own_tokens (ops : List Operation) (world : σ) :
    (∀ i m request metadata,
      (run c v s ops (.start world)).session.events[i]? = some (.sent m request metadata) →
      ∃ j token, i = j + 1 ∧
        (run c v s ops (.start world)).session.events[j]? = some (.asked (.ok token)) ∧
        metadata = [("authorization", "Bearer " ++ token)]) ∧
    ((run c v s ops (.start world)).session.events.filterMap Event.metadata?).Sublist
      (((run c v s ops (.start world)).session.events.filterMap Event.granted?).map fun token =>
        [("authorization", "Bearer " ++ token)]) ∧
    ∀ op : Operation, ∃ new,
      (perform c v s op (run c v s ops (.start world))).2.session.events =
        (run c v s ops (.start world)).session.events ++ new ∧
      ∀ front e back, new = front ++ .asked (.error e) :: back →
        back = [] ∧ (perform c v s op (run c v s ops (.start world))).1 = .error e := by
  have hstart : Event.Authorized (Activity.start world).session.events :=
    .of_silent fun e he => absurd he List.not_mem_nil
  have hrun := authorized_run (c := c) (v := v) (s := s) ops (.start world) hstart
  refine ⟨hrun.preceded, hrun.once, ?_⟩
  intro op
  obtain ⟨new, hnew, -, hrefused⟩ :=
    authorized_perform (c := c) (v := v) (s := s) op (run c v s ops (.start world))
  exact ⟨new, hnew, hrefused⟩

end Activity

/-- The key of a seat. -/
def seatKey : Key := .root none ⟨"Seat", some (.name "a"), false, false⟩

/-- A service that has two tokens to grant, and defers every key that it is asked for. -/
def Service.rationed : Service Script :=
  .scripted (fun n => if n ≤ 2 then .ok (numberedToken n) else .error (refusedToken n))
    [⟨.lookup, .ok ⟨[], [], [seatKey.encode "p"]⟩⟩] none

namespace Activity

/-- Two rounds of a lookup have tokens of their own. The third one has none, so it is not sent. -/
theorem requests_have_own_tokens_rationed :
    (∃ j token, 2 = j + 1 ∧
      (run (.ofProject "p") .rationed [] [.connect, .get none (.key seatKey) none]
        (.start ⟨0, []⟩)).session.events[j]? = some (.asked (.ok token)) ∧
      Transport.authorization "token-1" = [("authorization", "Bearer " ++ token)]) ∧
    (perform (.ofProject "p") .rationed [] (.get none (.key seatKey) none)
      (run (.ofProject "p") .rationed [] [.connect] (.start ⟨0, []⟩))).1 =
        .error (refusedToken 3) := by
  let request : Wire.LookupRequest :=
    (Client.ofProject "p").lookupRequest none [seatKey.encode "p"]
  have hround : (run (.ofProject "p") .rationed [] [.connect, .get none (.key seatKey) none]
      (.start ⟨0, []⟩)).session.events[2]? =
        some (.sent .lookup request (Transport.authorization "token-1")) := rfl
  constructor
  · exact (requests_have_own_tokens (c := .ofProject "p") (v := .rationed) (s := [])
      [.connect, .get none (.key seatKey) none] ⟨0, []⟩).1 2 .lookup request _ hround
  · obtain ⟨new, hnew, hrefused⟩ := (requests_have_own_tokens (c := .ofProject "p")
      (v := .rationed) (s := []) [.connect] ⟨0, []⟩).2.2 (.get none (.key seatKey) none)
    have hrecord : (perform (.ofProject "p") .rationed [] (.get none (.key seatKey) none)
        (run (.ofProject "p") .rationed [] [.connect] (.start ⟨0, []⟩))).2.session.events =
          (run (.ofProject "p") .rationed [] [.connect] (.start ⟨0, []⟩)).session.events ++
            ([.asked (.ok "token-1"),
              .sent .lookup request (Transport.authorization "token-1"),
              .asked (.ok "token-2"),
              .sent .lookup request (Transport.authorization "token-2")] ++
              .asked (.error (refusedToken 3)) :: []) := rfl
    exact (hrefused _ _ [] (List.append_cancel_left (hnew.symm.trans hrecord))).2

end Activity

end EntityStore
