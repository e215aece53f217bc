import EntityStore.Supplier
import Mathlib.Data.List.Induction

/-!
# Sharing a refresh

Calls that overlap share the refreshes of their credentials. The lock lets one call at a time look
at credentials that may be invalid, and a call that comes to it after another one's success finds
them valid.

* `Exchange.Steps`, `Exchange.steps` — all that one step can do;
* `Exchange.Sound` — one call at most holds the lock, and every call is as far as the credentials
  allow;
* `Exchange.sound_step`, `Exchange.sound_run` — this is kept by every step and by every run;
* `refresh_shared` — what holds of every state that can be reached, in whichever order the calls
  take their steps.
-/

namespace EntityStore

/-! ### What comes of a refresh -/

/-- The error of a call whose refresh comes to nothing: a refusal is a failed authorization, and an
outside fault passes through. -/
inductive RefreshOutcome.FailsWith : RefreshOutcome → Error → Prop
  | refused (message : String) :
      FailsWith (.refused message)
        (.failure (.authorization ("Failed to refresh access token: " ++ message)))
  | broken (message : String) : FailsWith (.broken message) (.runtime message)

namespace Credentials

/-- A refresh that succeeds makes the credentials valid. -/
def Renews (c : Credentials) : Prop :=
  ∀ n token isValid, c.outcome n = .granted token isValid → isValid = true

/-- What comes of the next refresh. -/
def next (c : Credentials) : RefreshOutcome := c.outcome c.refreshes

variable {c : Credentials}

theorem refresh_outcome : c.refresh.2.outcome = c.outcome := by
  unfold refresh
  split <;> rfl

/-- A refresh that is over has made the credentials valid, or has left them as they were and has an
error. -/
theorem refresh_cases (hc : c.Renews) :
    (c.refresh.1 = none ∧ c.refresh.2.isValid = true) ∨
      ∃ e, c.refresh.1 = some e ∧ c.refresh.2.isValid = c.isValid ∧ c.next.FailsWith e := by
  unfold refresh next
  cases houtcome : c.outcome c.refreshes with
  | granted token isValid => exact .inl ⟨rfl, hc _ _ _ houtcome⟩
  | refused message => exact .inr ⟨_, rfl, rfl, .refused message⟩
  | broken message => exact .inr ⟨_, rfl, rfl, .broken message⟩

theorem refresh_of_granted {token : Option String} {isValid : Bool}
    (h : c.next = .granted token isValid) : c.refresh.2.isValid = isValid := by
  rw [next] at h
  rw [refresh, h]

end Credentials

namespace Exchange

/-! ### One step -/

variable {x : Exchange} {i : Nat}

theorem isFree_iff : x.isFree = true ↔
    ∀ (i : Nat) (p : Phase), x.calls[i]? = some p → p.holdsLock = false := by
  rw [isFree, Bool.not_eq_true', List.any_eq_false]
  constructor
  · intro h i p hp
    exact Bool.eq_false_iff.mpr (h p (List.mem_of_getElem? hp))
  · intro h p hp
    obtain ⟨i, hi⟩ := List.getElem?_of_mem hp
    exact Bool.eq_false_iff.mp (h i p hi)

/-- All that a step of the call `i` can do. -/
inductive Steps (x : Exchange) (i : Nat) : Exchange → Prop
  | absent (h : x.calls[i]? = none) : Steps x i x
  | finished {r : Outcome (Option String)} (h : x.calls[i]? = some (.answered r)) : Steps x i x
  | blocked (h : x.calls[i]? = some .waiting) (hlock : x.isFree = false) : Steps x i x
  | passed (h : x.calls[i]? = some .entering) (hvalid : x.credentials.isValid = true) :
      Steps x i ⟨x.credentials, x.calls.set i x.found⟩
  | queued (h : x.calls[i]? = some .entering) (hvalid : x.credentials.isValid = false) :
      Steps x i ⟨x.credentials, x.calls.set i .waiting⟩
  | served (h : x.calls[i]? = some .waiting) (hlock : x.isFree = true)
      (hvalid : x.credentials.isValid = true) : Steps x i ⟨x.credentials, x.calls.set i x.found⟩
  | started (h : x.calls[i]? = some .waiting) (hlock : x.isFree = true)
      (hvalid : x.credentials.isValid = false) :
      Steps x i ⟨x.credentials, x.calls.set i .refreshing⟩
  | refreshed (h : x.calls[i]? = some .refreshing) :
      Steps x i ⟨x.credentials.refresh.2, x.calls.set i (.resuming x.credentials.refresh.1)⟩
  | returned (h : x.calls[i]? = some (.resuming none)) :
      Steps x i ⟨x.credentials, x.calls.set i x.found⟩
  | failed {e : Error} (h : x.calls[i]? = some (.resuming (some e))) :
      Steps x i ⟨x.credentials, x.calls.set i (.answered (.error e))⟩

theorem steps (x : Exchange) (i : Nat) : x.Steps i (x.step i) := by
  unfold step
  split
  next h =>
    cases hvalid : x.credentials.isValid with
    | true => exact .passed h hvalid
    | false => exact .queued h hvalid
  next h =>
    cases hlock : x.isFree with
    | false => exact .blocked h hlock
    | true =>
      cases hvalid : x.credentials.isValid with
      | true => exact .served h hlock hvalid
      | false => exact .started h hlock hvalid
  next h => exact .refreshed h
  next h => exact .returned h
  next e h => exact .failed h
  next r h => exact .finished h
  next h => exact .absent h

/-- The step by which the call `i` starts a refresh. -/
def Starts (x : Exchange) (i : Nat) : Prop :=
  x.calls[i]? ≠ some .refreshing ∧ (x.step i).calls[i]? = some .refreshing

/-- The step by which the refresh of the call `i` ends, with what comes of it. -/
def Ends (x : Exchange) (i : Nat) (outcome : RefreshOutcome) : Prop :=
  x.calls[i]? = some .refreshing ∧ x.credentials.next = outcome

/-- A refresh of the call `i` that has ended among the steps of a schedule. -/
def Ended (x : Exchange) (schedule : List Nat) (i : Nat) (outcome : RefreshOutcome) : Prop :=
  ∃ before after, schedule = before ++ i :: after ∧ (x.run before).Ends i outcome

theorem calls_set_self {p : Phase} (h : x.calls[i]? = some p) (q : Phase) :
    (x.calls.set i q)[i]? = some q :=
  List.getElem?_set_self (List.getElem?_eq_some_iff.mp h).1

/-- When the call `i` goes on, its phase is the new one, and all other calls stay where they are. -/
theorem calls_set_iff {p q r : Phase} {j : Nat} (h : x.calls[i]? = some p) :
    (x.calls.set i q)[j]? = some r ↔ (j = i ∧ r = q) ∨ (j ≠ i ∧ x.calls[j]? = some r) := by
  by_cases hj : j = i
  · subst hj
    rw [calls_set_self h, Option.some.injEq]
    simp only [true_and, ne_eq, not_true_eq_false, false_and, or_false, eq_comm]
  · rw [List.getElem?_set_ne (Ne.symm hj)]
    simp only [hj, false_and, ne_eq, not_false_eq_true, true_and, false_or]

/-- A refresh starts only by a call that has waited for the lock, gets it, and finds the credentials
invalid. -/
theorem starts_iff :
    x.Starts i ↔
      x.calls[i]? = some .waiting ∧ x.isFree = true ∧ x.credentials.isValid = false := by
  unfold Starts
  constructor
  · rintro ⟨hbefore, hafter⟩
    have hsteps := x.steps i
    generalize x.step i = y at hsteps hafter
    cases hsteps with
    | absent | finished | blocked => exact absurd hafter hbefore
    | started h hlock hvalid => exact ⟨h, hlock, hvalid⟩
    | refreshed h => exact absurd h hbefore
    | passed h | queued h | served h | returned h | failed h =>
      rw [calls_set_self h] at hafter
      cases hafter
  · rintro ⟨hcall, hlock, hvalid⟩
    have hstep : x.step i = ⟨x.credentials, x.calls.set i .refreshing⟩ := by
      simp only [step, hcall, hlock, hvalid]
      rfl
    rw [hstep, hcall]
    exact ⟨nofun, calls_set_self hcall _⟩

end Exchange

/-! ### What every step keeps -/

/-- How far a call may be with given credentials, if its own refreshes may have had given errors.
Nobody refreshes valid credentials, so the token of an answer stays theirs. -/
def Phase.Fits (c : Credentials) (own : Error → Prop) : Phase → Prop
  | entering | waiting => True
  | refreshing => c.isValid = false
  | resuming none => c.isValid = true
  | resuming (some e) => c.isValid = false ∧ own e
  | answered (.ok token) => c.isValid = true ∧ token = c.token
  | answered (.error e) => own e

/-- A call without the lock, answered or not, does not depend on credentials that are not valid. -/
theorem Phase.Fits.of_invalid {c c' : Credentials} {own : Error → Prop} {p : Phase}
    (h : p.Fits c own) (hinvalid : c.isValid = false) (hlock : p.holdsLock = false) :
    p.Fits c' own := by
  cases p with
  | entering => trivial
  | waiting => trivial
  | refreshing => cases hlock
  | resuming failure => cases hlock
  | answered r =>
    cases r with
    | ok token => exact absurd (hinvalid.symm.trans h.1) nofun
    | error e => exact h

namespace Exchange

variable {x : Exchange} {i : Nat} {own : Nat → Error → Prop}

/-- The calls of an exchange get along: one at most holds the lock, and each is as far as the
credentials allow, with the errors of its own refreshes. -/
structure Sound (own : Nat → Error → Prop) (x : Exchange) : Prop where
  renews : x.credentials.Renews
  fits : ∀ (i : Nat) (p : Phase), x.calls[i]? = some p → p.Fits x.credentials (own i)
  alone : ∀ (i j : Nat) (p q : Phase), x.calls[i]? = some p → x.calls[j]? = some q →
    p.holdsLock = true → q.holdsLock = true → i = j

theorem sound_start {c : Credentials} (hc : c.Renews) (n : Nat) : (start c n).Sound own := by
  have hentering (i : Nat) (p : Phase) (hp : (start c n).calls[i]? = some p) : p = .entering :=
    List.eq_of_mem_replicate (List.mem_of_getElem? hp)
  refine ⟨hc, ?_, ?_⟩
  · intro i p hp
    rw [hentering i p hp]
    trivial
  · intro i j p q hp _ hlock
    rw [hentering i p hp] at hlock
    cases hlock

/-- A call goes on. It may take the lock only if this is free, and the credentials may change only
as the other calls allow. -/
theorem Sound.moves (h : x.Sound own) {c : Credentials} {p q : Phase} (hp : x.calls[i]? = some p)
    (hc : c.Renews) (hfits : q.Fits c (own i))
    (hlock : q.holdsLock = true → p.holdsLock = true ∨ x.isFree = true)
    (hothers : ∀ (j : Nat) (r : Phase), j ≠ i → x.calls[j]? = some r → r.Fits c (own j)) :
    Sound own ⟨c, x.calls.set i q⟩ := by
  -- Beside the call that moves, no other one holds the lock if this one does.
  have hnone (j : Nat) (r : Phase) (hj : j ≠ i) (hr : x.calls[j]? = some r)
      (hq : q.holdsLock = true) : r.holdsLock ≠ true := by
    intro hholds
    rcases hlock hq with hheld | hfree
    · exact hj (h.alone j i r p hr hp hholds hheld)
    · rw [isFree_iff.mp hfree j r hr] at hholds
      cases hholds
  refine ⟨hc, ?_, ?_⟩
  · intro j r hr
    rcases (calls_set_iff hp).mp hr with ⟨rfl, rfl⟩ | ⟨hj, hold⟩
    · exact hfits
    · exact hothers j r hj hold
  · intro j k r s hr hs hrlock hslock
    rcases (calls_set_iff hp).mp hr with ⟨rfl, rfl⟩ | ⟨hj, hrold⟩
    · rcases (calls_set_iff hp).mp hs with ⟨rfl, rfl⟩ | ⟨hk, hsold⟩
      · rfl
      · exact absurd hslock (hnone k s hk hsold hrlock)
    · rcases (calls_set_iff hp).mp hs with ⟨rfl, rfl⟩ | ⟨hk, hsold⟩
      · exact absurd hrlock (hnone j r hj hrold hslock)
      · exact h.alone j k r s hrold hsold hrlock hslock

/-- **What one step keeps.** -/
theorem sound_step (h : x.Sound own)
    (hown : ∀ outcome e, x.Ends i outcome → outcome.FailsWith e → own i e) :
    (x.step i).Sound own := by
  have hothers (j : Nat) (r : Phase) (_ : j ≠ i) (hr : x.calls[j]? = some r) :
      r.Fits x.credentials (own j) := h.fits j r hr
  have hsteps := x.steps i
  generalize x.step i = y at hsteps
  cases hsteps with
  | absent | finished | blocked => exact h
  | passed hcall hvalid => exact h.moves hcall h.renews ⟨hvalid, rfl⟩ nofun hothers
  | queued hcall => exact h.moves hcall h.renews trivial nofun hothers
  | served hcall _ hvalid => exact h.moves hcall h.renews ⟨hvalid, rfl⟩ nofun hothers
  | started hcall hlock hvalid =>
    exact h.moves hcall h.renews hvalid (fun _ => .inr hlock) hothers
  | refreshed hcall =>
    have hinvalid : x.credentials.isValid = false := h.fits i _ hcall
    refine h.moves hcall ?_ ?_ (fun _ => .inl rfl) ?_
    · intro n
      rw [Credentials.refresh_outcome]
      exact h.renews n
    · rcases Credentials.refresh_cases h.renews with ⟨hnone, hvalid⟩ | ⟨e, hsome, hkept, hfails⟩
      · rw [hnone]
        exact hvalid
      · rw [hsome]
        exact ⟨hkept.trans hinvalid, hown _ e ⟨hcall, rfl⟩ hfails⟩
    · intro j r hj hr
      refine (h.fits j r hr).of_invalid hinvalid (Bool.eq_false_iff.mpr ?_)
      intro hholds
      exact hj (h.alone j i r .refreshing hr hcall hholds rfl)
  | returned hcall => exact h.moves hcall h.renews ⟨h.fits i _ hcall, rfl⟩ nofun hothers
  | failed hcall => exact h.moves hcall h.renews (h.fits i _ hcall).2 nofun hothers

theorem run_snoc (x : Exchange) (schedule : List Nat) (i : Nat) :
    x.run (schedule ++ [i]) = (x.run schedule).step i :=
  List.foldl_append

/-- **What a run keeps.** The induction is from the end of the schedule, as the errors are those of
refreshes that have ended before. -/
theorem sound_run (h : x.Sound own) (schedule : List Nat)
    (hown : ∀ i outcome e, x.Ended schedule i outcome → outcome.FailsWith e → own i e) :
    (x.run schedule).Sound own := by
  induction schedule using List.reverseRecOn with
  | nil => exact h
  | append_singleton schedule i ih =>
    rw [run_snoc]
    refine sound_step (ih ?_) ?_
    · rintro j outcome e ⟨before, after, rfl, hends⟩
      exact hown j outcome e ⟨before, after ++ [i], by rw [List.append_assoc]; rfl, hends⟩
    · intro outcome e hends
      exact hown i outcome e ⟨schedule, [], rfl, hends⟩

/-- Valid credentials are refreshed no more. -/
theorem Sound.credentials_step (h : x.Sound own) (hvalid : x.credentials.isValid = true) (i : Nat) :
    (x.step i).credentials = x.credentials := by
  have hsteps := x.steps i
  generalize x.step i = y at hsteps
  cases hsteps with
  | refreshed hcall => exact absurd ((h.fits i _ hcall).symm.trans hvalid) nofun
  | _ => rfl

theorem Sound.credentials_run (h : x.Sound own) (hvalid : x.credentials.isValid = true)
    (schedule : List Nat) : (x.run schedule).credentials = x.credentials := by
  induction schedule generalizing x with
  | nil => rfl
  | cons i schedule ih =>
    have hstep := h.credentials_step hvalid i
    -- No refresh ends here, so the step adds no error.
    have hsound : (x.step i).Sound own := by
      refine sound_step h ?_
      rintro outcome e ⟨hcall, -⟩
      exact absurd ((h.fits i _ hcall).symm.trans hvalid) nofun
    have hrest := ih hsound (by rw [hstep]; exact hvalid)
    rw [hstep] at hrest
    exact hrest

/-- After a refresh that has succeeded the credentials stay valid. -/
theorem isValid_of_ended {c : Credentials} (hc : c.Renews) {n : Nat} {schedule : List Nat}
    {token : Option String} {isValid : Bool}
    (h : (start c n).Ended schedule i (.granted token isValid)) :
    ((start c n).run schedule).credentials.isValid = true := by
  obtain ⟨before, after, rfl, hcall, hnext⟩ := h
  have hsound : ((start c n).run before).Sound (fun _ _ => True) :=
    sound_run (sound_start hc n) before fun _ _ _ _ _ => trivial
  have hafter : (((start c n).run before).step i).Sound (fun _ _ => True) :=
    sound_step hsound fun _ _ _ _ => trivial
  have hvalid : (((start c n).run before).step i).credentials.isValid = true := by
    rw [step, hcall]
    show ((start c n).run before).credentials.refresh.2.isValid = true
    rw [Credentials.refresh_of_granted hnext]
    exact hsound.renews _ _ _ hnext
  have hrun : (start c n).run (before ++ i :: after)
      = (((start c n).run before).step i).run after := List.foldl_append
  rw [hrun, hafter.credentials_run hvalid]
  exact hvalid

/-! ### Every state -/

/-- The calls of an exchange share their refreshes in the state after a schedule. One refresh runs
at most, and none starts unless the credentials are invalid and none has succeeded so far. A call
that enters with valid credentials has its answer at once, whoever holds the lock. An answer is the
token of valid credentials, or the error of a refresh of the call itself. When a call goes on after
a refresh that has failed, the lock is free, and whichever call waits can start the next one. -/
structure Shares (x first : Exchange) (schedule : List Nat) : Prop where
  alone : ∀ i j : Nat, x.calls[i]? = some .refreshing → x.calls[j]? = some .refreshing → i = j
  starts : ∀ i, x.Starts i → x.credentials.isValid = false ∧
    ∀ j token isValid, ¬ first.Ended schedule j (.granted token isValid)
  passes : ∀ i : Nat, x.calls[i]? = some .entering → x.credentials.isValid = true →
    x.step i = ⟨x.credentials, x.calls.set i (.answered (.ok x.credentials.token))⟩ ∧
      (x.step i).isFree = x.isFree
  answers : ∀ (i : Nat) (r : Outcome (Option String)), x.calls[i]? = some (.answered r) →
    (x.credentials.isValid = true ∧ r = .ok x.credentials.token) ∨
      ∃ outcome e, r = .error e ∧ first.Ended schedule i outcome ∧ outcome.FailsWith e
  releases : ∀ (i : Nat) (e : Error), x.calls[i]? = some (.resuming (some e)) →
    (x.step i).calls[i]? = some (.answered (.error e)) ∧ (x.step i).isFree = true ∧
      ∀ j : Nat, (x.step i).calls[j]? = some .waiting → (x.step i).Starts j

theorem isFree_set {p q : Phase} (h : x.calls[i]? = some p) (hp : p.holdsLock = false)
    (hq : q.holdsLock = false) :
    (⟨x.credentials, x.calls.set i q⟩ : Exchange).isFree = x.isFree := by
  rw [Bool.eq_iff_iff, isFree_iff, isFree_iff]
  constructor
  · intro hfree j r hr
    by_cases hj : j = i
    · subst hj
      obtain rfl : p = r := Option.some.inj (h.symm.trans hr)
      exact hp
    · exact hfree j r ((calls_set_iff h).mpr (.inr ⟨hj, hr⟩))
  · intro hfree j r hr
    rcases (calls_set_iff h).mp hr with ⟨-, rfl⟩ | ⟨-, hold⟩
    · exact hq
    · exact hfree j r hold

/-- The lock is free when a call that has held it gives it back. -/
theorem Sound.isFree_released (h : x.Sound own) {p q : Phase} (hcall : x.calls[i]? = some p)
    (hp : p.holdsLock = true) (hq : q.holdsLock = false) :
    (⟨x.credentials, x.calls.set i q⟩ : Exchange).isFree = true := by
  refine isFree_iff.mpr fun j r hr => ?_
  rcases (calls_set_iff hcall).mp hr with ⟨-, rfl⟩ | ⟨hj, hold⟩
  · exact hq
  · refine Bool.eq_false_iff.mpr fun hholds => ?_
    exact hj (h.alone j i r p hold hcall hholds hp)

end Exchange

/-- **Calls share their refreshes**, for credentials that a successful refresh makes valid and that
do not expire meanwhile, for any number of calls, and for every order of their steps. -/
theorem refresh_shared (c : Credentials) (hc : c.Renews) (n : Nat) (schedule : List Nat) :
    ((Exchange.start c n).run schedule).Shares (.start c n) schedule := by
  have hsound : ((Exchange.start c n).run schedule).Sound
      fun i e => ∃ outcome, (Exchange.start c n).Ended schedule i outcome ∧ outcome.FailsWith e :=
    Exchange.sound_run (Exchange.sound_start hc n) schedule
      fun i outcome e hended hfails => ⟨outcome, hended, hfails⟩
  have hvalid (j : Nat) (token : Option String) (isValid : Bool)
      (hended : (Exchange.start c n).Ended schedule j (.granted token isValid)) :=
    Exchange.isValid_of_ended hc hended
  generalize (Exchange.start c n).run schedule = x at hsound hvalid
  refine ⟨?_, ?_, ?_, ?_, ?_⟩
  · intro i j hi hj
    exact hsound.alone i j _ _ hi hj rfl rfl
  · intro i hstarts
    obtain ⟨-, -, hinvalid⟩ := Exchange.starts_iff.mp hstarts
    refine ⟨hinvalid, fun j token isValid hended => ?_⟩
    exact absurd (hinvalid.symm.trans (hvalid j token isValid hended)) nofun
  · intro i hcall hnow
    have hstep : x.step i = ⟨x.credentials, x.calls.set i x.found⟩ := by
      simp only [Exchange.step, hcall, hnow]
      rfl
    rw [hstep]
    exact ⟨rfl, Exchange.isFree_set hcall rfl rfl⟩
  · intro i r hcall
    have hfits := hsound.fits i _ hcall
    cases r with
    | ok token =>
      obtain ⟨hnow, rfl⟩ := hfits
      exact .inl ⟨hnow, rfl⟩
    | error e =>
      obtain ⟨outcome, hended, hfails⟩ := hfits
      exact .inr ⟨outcome, e, rfl, hended, hfails⟩
  · intro i e hcall
    have hstep : x.step i = ⟨x.credentials, x.calls.set i (.answered (.error e))⟩ := by
      simp only [Exchange.step, hcall]
    have hfree := hsound.isFree_released (q := .answered (.error e)) hcall rfl rfl
    rw [hstep]
    refine ⟨Exchange.calls_set_self hcall _, hfree, fun j hwaits => ?_⟩
    exact Exchange.starts_iff.mpr ⟨hwaits, hfree, (hsound.fits i _ hcall).1⟩

/-- Credentials whose first refresh is refused and whose second one succeeds. -/
def secondTry : Credentials :=
  ⟨none, false, 0, fun n => if n = 1 then .granted (some "t2") true else .refused "revoked"⟩

theorem renews_secondTry : secondTry.Renews := by
  intro n token isValid h
  unfold secondTry at h
  dsimp only at h
  split at h
  · exact (RefreshOutcome.granted.inj h).2.symm
  · cases h

/-- Three calls. The first one fails, the second one has waited and refreshes again, and the third
one comes late and passes. -/
theorem refresh_shared_secondTry :
    secondTry.Renews ∧
      ((Exchange.start secondTry 3).run [0, 1, 0, 0, 1, 0, 1, 1, 1, 2]).answers =
        [.error (.failure (.authorization "Failed to refresh access token: revoked")),
          .ok (some "t2"), .ok (some "t2")] ∧
      ((Exchange.start secondTry 3).run [0, 1, 0, 0, 1, 0, 1, 1, 1, 2]).Shares
        (.start secondTry 3) [0, 1, 0, 0, 1, 0, 1, 1, 1, 2] :=
  ⟨renews_secondTry, rfl, refresh_shared secondTry renews_secondTry 3 _⟩

/-- Credentials whose refreshes meet an outside fault. -/
def faulty : Credentials := ⟨none, false, 0, fun _ => .broken "boom"⟩

/-- Not every error is a failed authorization: an outside fault passes through. -/
theorem not_authorization_of_broken :
    ¬ ∀ (c : Credentials) (n : Nat) (schedule : List Nat), c.Renews →
      ∀ (i : Nat) (e : Error),
        ((Exchange.start c n).run schedule).calls[i]? = some (.answered (.error e)) →
          ∃ message, e = .failure (.authorization message) := by
  intro h
  obtain ⟨message, heq⟩ := h faulty 1 [0, 0, 0, 0] nofun 0 (.runtime "boom") rfl
  cases heq

end EntityStore
