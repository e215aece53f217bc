import EntityStore.Client
import EntityStore.Proofs.Transport
import EntityStore.Transaction
import Mathlib.Data.Nat.Find

/-!
# Queries page by page

A query is asked for page after page, whatever the service answers. The rounds are told apart by
what their answers say: the query goes on, is finished, or fails.

* `Paging` — a query on its way, with `cursor`, `session` and `response` of each round;
* `Paging.Continues`, `Paging.Finishes`, `Paging.Fails` — the three kinds of rounds;
* `Paging.pages_skip` — the rounds in which the query goes on only add their results;
* `Paging.run_of_finishes`, `Paging.run_of_fails`, `Paging.run_of_unfinished` — the ends of a query;
* `runQuery_pages` — results, failures and requests for any service;
* `Service.paged` — a service with pages of one size.
-/

namespace EntityStore

variable {σ : Type}

/-- A query on its way: who asks whom, in a transaction or not, the query with its message, and the
session at the start. -/
structure Paging (σ : Type) where
  client : Client
  service : Service σ
  transaction : Option Bytes
  query : Query
  compiled : Wire.Query
  start : Session σ

namespace Paging

variable (p : Paging σ)

/-! ### Rounds -/

/-- The largest number of rounds. -/
def limit : Nat := p.client.config.maxRounds

/-- The request for the page behind a cursor. -/
def request (cursor : Bytes) : Wire.RunQueryRequest :=
  p.client.pageRequest p.transaction p.query p.compiled cursor

/-- The call for the page behind a cursor. -/
def call (cursor : Bytes) : Action (Session σ) Wire.Batch :=
  Transport.call p.service .runQuery (p.request cursor)

/-- The cursor and the session before each round, if there was no limit: the next round starts at
the end of a page, and at the same place after a failure. -/
def before : Nat → Bytes × Session σ
  | 0 => (p.compiled.startCursor, p.start)
  | i + 1 =>
    match p.call (before i).1 (before i).2 with
    | (.ok page, s) => (page.endCursor, s)
    | (.error _, s) => ((before i).1, s)

/-- The cursor that a round starts at. -/
def cursor (i : Nat) : Bytes := (p.before i).1

/-- The session before a round. -/
def session (i : Nat) : Session σ := (p.before i).2

/-- What comes of the call in a round. -/
def response (i : Nat) : Outcome Wire.Batch := (p.call (p.cursor i) (p.session i)).1

/-- The entities on the page of a round. -/
def entities (i : Nat) : Outcome (List Entity) :=
  (p.response i).bind fun page => page.results.mapM Wire.Entity.decode

/-- The entities on the pages of the first rounds. -/
def collected (k : Nat) : List Entity :=
  (List.range k).flatMap fun i => (p.entities i).toOption.getD []

/-- The query goes on: all entities of the page are read, there are more, and the cursor has
moved. -/
def Continues (i : Nat) : Prop :=
  ∃ page es, p.response i = .ok page ∧ page.results.mapM Wire.Entity.decode = .ok es ∧
    page.progress = Client.unfinished ∧ page.endCursor ≠ p.cursor i

/-- The query is finished: all entities of the page are read, and it reports one of the known ways
in which there are no more. -/
def Finishes (i : Nat) : Prop :=
  ∃ page es, p.response i = .ok page ∧ page.results.mapM Wire.Entity.decode = .ok es ∧
    Client.isKnownProgress page.progress = true ∧ page.progress ≠ Client.unfinished

/-- The query fails: the call fails, an entity of the page is not read, the page reports nothing
that is known, or there are more results behind the cursor that the round started at. -/
def Fails (i : Nat) (e : Error) : Prop :=
  p.response i = .error e ∨ ∃ page, p.response i = .ok page ∧
    (page.results.mapM Wire.Entity.decode = .error e ∨
      ∃ es, page.results.mapM Wire.Entity.decode = .ok es ∧
        (Client.isKnownProgress page.progress = false ∧
            e = .decode (.unknownProgress page.progress) ∨
          page.progress = Client.unfinished ∧ page.endCursor = p.cursor i ∧
            e = Client.queryStalled p.query (i + 1)))

theorem session_succ (i : Nat) :
    p.session (i + 1) = (p.call (p.cursor i) (p.session i)).2 := by
  show (match p.call (p.cursor i) (p.session i) with
    | (.ok page, s) => (page.endCursor, s)
    | (.error _, s) => (p.cursor i, s)).2 = _
  cases p.call (p.cursor i) (p.session i) with
  | mk r s => cases r <;> rfl

theorem call_eq (i : Nat) :
    p.call (p.cursor i) (p.session i) = (p.response i, p.session (i + 1)) := by
  rw [session_succ]
  rfl

theorem cursor_succ {i : Nat} {page : Wire.Batch} (h : p.response i = .ok page) :
    p.cursor (i + 1) = page.endCursor := by
  show (match p.call (p.cursor i) (p.session i) with
    | (.ok page, s) => (page.endCursor, s)
    | (.error _, s) => (p.cursor i, s)).1 = _
  rw [call_eq, h]

theorem entities_eq {i : Nat} {page : Wire.Batch} {es : List Entity}
    (hpage : p.response i = .ok page) (hread : page.results.mapM Wire.Entity.decode = .ok es) :
    p.entities i = .ok es := by
  rw [entities, hpage]
  exact hread

theorem collected_succ (k : Nat) {es : List Entity} (h : p.entities k = .ok es) :
    p.collected (k + 1) = p.collected k ++ es := by
  rw [collected, List.range_succ, List.flatMap_append, List.flatMap_singleton, h]
  rfl

/-- **Every round is of one of the three kinds.** -/
theorem continues_or_finishes_or_fails (i : Nat) :
    p.Continues i ∨ p.Finishes i ∨ ∃ e, p.Fails i e := by
  cases hresponse : p.response i with
  | error e => exact Or.inr (Or.inr ⟨e, Or.inl hresponse⟩)
  | ok page =>
    cases hread : page.results.mapM Wire.Entity.decode with
    | error e => exact Or.inr (Or.inr ⟨e, Or.inr ⟨page, hresponse, Or.inl hread⟩⟩)
    | ok es =>
      by_cases hmore : page.progress = Client.unfinished
      · by_cases hstill : page.endCursor = p.cursor i
        · exact Or.inr (Or.inr ⟨_, Or.inr ⟨page, hresponse, Or.inr ⟨es, hread, Or.inr
            ⟨hmore, hstill, rfl⟩⟩⟩⟩)
        · exact Or.inl ⟨page, es, hresponse, hread, hmore, hstill⟩
      · cases hknown : Client.isKnownProgress page.progress with
        | true => exact Or.inr (Or.inl ⟨page, es, hresponse, hread, hknown, hmore⟩)
        | false =>
          exact Or.inr (Or.inr ⟨_, Or.inr ⟨page, hresponse, Or.inr ⟨es, hread, Or.inl
            ⟨hknown, rfl⟩⟩⟩⟩)

/-- A query that is finished does not go on. -/
theorem not_continues_of_finishes {i : Nat} (h : p.Finishes i) : ¬ p.Continues i := by
  rintro ⟨page, _, hpage, _, hmore, _⟩
  obtain ⟨last, _, hlast, _, _, hdone⟩ := h
  obtain rfl := Except.ok.inj (hpage.symm.trans hlast)
  exact hdone hmore

/-- Neither does one that fails. -/
theorem not_continues_of_fails {i : Nat} {e : Error} (h : p.Fails i e) : ¬ p.Continues i := by
  rintro ⟨page, es, hpage, hread, hmore, hmoved⟩
  rcases h with herror | ⟨last, hlast, h⟩
  · cases hpage.symm.trans herror
  obtain rfl := Except.ok.inj (hpage.symm.trans hlast)
  rcases h with herror | ⟨_, _, ⟨hunknown, _⟩ | ⟨_, hstill, _⟩⟩
  · cases hread.symm.trans herror
  · rw [hmore] at hunknown
    exact absurd hunknown (by decide)
  · exact hmoved hstill

/-! ### Steps of the loop -/

/-- The pages from a round on, in at most `rounds` rounds. -/
def pages (rounds i : Nat) : Outcome (List Entity) × Session σ :=
  p.client.queryPages p.service p.transaction p.query p.compiled rounds (p.cursor i) (p.session i)

/-- What a round makes of a page whose entities are read. -/
theorem pages_read {rounds i : Nat} {page : Wire.Batch} {es : List Entity}
    (hpage : p.response i = .ok page) (hread : page.results.mapM Wire.Entity.decode = .ok es) :
    p.pages (rounds + 1) i =
      if !Client.isKnownProgress page.progress then
        (.error (.decode (.unknownProgress page.progress)), p.session (i + 1))
      else if page.progress != Client.unfinished then (.ok es, p.session (i + 1))
      else if page.endCursor == p.cursor i then
        (.error (Client.queryStalled p.query (p.limit - rounds)), p.session (i + 1))
      else ((p.pages rounds (i + 1)).1.map (es ++ ·), (p.pages rounds (i + 1)).2) := by
  have hcall := p.call_eq i
  rw [hpage] at hcall
  refine (Action.bind_of_ok _ hcall).trans ((Action.ofOutcome_bind_of_ok _ _ hread).trans ?_)
  split
  · rfl
  split
  · rfl
  split
  · rfl
  rw [pages, p.cursor_succ hpage, Action.bind_apply]
  cases p.client.queryPages p.service p.transaction p.query p.compiled rounds page.endCursor
    (p.session (i + 1)) with
  | mk r s => cases r <;> rfl

theorem pages_of_finishes {rounds i : Nat} {es : List Entity} (h : p.Finishes i)
    (hes : p.entities i = .ok es) : p.pages (rounds + 1) i = (.ok es, p.session (i + 1)) := by
  obtain ⟨page, es', hpage, hread, hknown, hdone⟩ := h
  obtain rfl := Except.ok.inj ((p.entities_eq hpage hread).symm.trans hes)
  rw [p.pages_read hpage hread]
  simp [hknown, hdone]

theorem pages_of_fails {rounds i : Nat} {e : Error} (hi : i + (rounds + 1) = p.limit)
    (h : p.Fails i e) : p.pages (rounds + 1) i = (.error e, p.session (i + 1)) := by
  have hcall := p.call_eq i
  rcases h with herror | ⟨page, hpage, hread | ⟨es, hread, h⟩⟩
  · rw [herror] at hcall
    exact Action.bind_of_error _ hcall
  · rw [hpage] at hcall
    refine (Action.bind_of_ok _ hcall).trans (Action.bind_of_error _ ?_)
    rw [hread]
    rfl
  · rw [p.pages_read hpage hread]
    rcases h with ⟨hunknown, rfl⟩ | ⟨hmore, hstill, rfl⟩
    · simp [hunknown]
    · have hknown : Client.isKnownProgress Client.unfinished = true := by decide
      simp [hmore, hknown, hstill, show p.limit - rounds = i + 1 by omega]

/-- A round in which the query goes on puts its results in front of those of the others. -/
theorem pages_of_continues {rounds i : Nat} {es : List Entity} (h : p.Continues i)
    (hes : p.entities i = .ok es) :
    p.pages (rounds + 1) i =
      ((p.pages rounds (i + 1)).1.map (es ++ ·), (p.pages rounds (i + 1)).2) := by
  obtain ⟨page, es', hpage, hread, hmore, hmoved⟩ := h
  obtain rfl := Except.ok.inj ((p.entities_eq hpage hread).symm.trans hes)
  have hknown : Client.isKnownProgress Client.unfinished = true := by decide
  rw [p.pages_read hpage hread]
  simp [hmore, hknown, hmoved]

/-! ### The whole query -/

/-- The query, from the session at the start. -/
def run : Outcome (List Entity) × Session σ :=
  p.client.runQuery p.service p.transaction p.query p.start

/-- Requests for the pages of the first rounds. -/
def sent (n : Nat) : List ((m : Wire.Method) × Wire.Request m) :=
  (List.range n).map fun i => ⟨.runQuery, p.request (p.cursor i)⟩

variable {p}

theorem run_eq (h : p.query.compile p.client.projectId = .ok p.compiled) :
    p.run = p.pages p.limit 0 :=
  Action.ofOutcome_bind_of_ok _ _ h

theorem Continues.exists_entities {i : Nat} (h : p.Continues i) : ∃ es, p.entities i = .ok es := by
  obtain ⟨page, es, hpage, hread, _, _⟩ := h
  exact ⟨es, p.entities_eq hpage hread⟩

theorem Finishes.exists_entities {i : Nat} (h : p.Finishes i) : ∃ es, p.entities i = .ok es := by
  obtain ⟨page, es, hpage, hread, _, _⟩ := h
  exact ⟨es, p.entities_eq hpage hread⟩

theorem exists_rounds {k : Nat} (hk : k < p.limit) : ∃ rounds, p.limit - k = rounds + 1 :=
  ⟨p.limit - k - 1, by omega⟩

/-- **Rounds in which the query goes on can be skipped**: they add their results and leave so many
rounds fewer. -/
theorem pages_skip {k : Nat} (hk : k ≤ p.limit) (h : ∀ i < k, p.Continues i) :
    p.pages p.limit 0 =
      ((p.pages (p.limit - k) k).1.map (p.collected k ++ ·), (p.pages (p.limit - k) k).2) := by
  induction k with
  | zero =>
    cases p.pages p.limit 0 with
    | mk r s => cases r <;> rfl
  | succ k ih =>
    obtain ⟨es, hes⟩ := (h k (Nat.lt_succ_self k)).exists_entities
    obtain ⟨rounds, hrounds⟩ := exists_rounds hk
    rw [ih (by omega) fun i hi => h i (by omega), hrounds,
      p.pages_of_continues (h k (Nat.lt_succ_self k)) hes, p.collected_succ k hes,
      show p.limit - (k + 1) = rounds by omega]
    cases p.pages rounds (k + 1) with
    | mk r s =>
      cases r with
      | error e => rfl
      | ok more => simp [Except.map]

variable (hcompile : p.query.compile p.client.projectId = .ok p.compiled)
include hcompile

theorem run_of_finishes {k : Nat} (hk : k < p.limit) (h : ∀ i < k, p.Continues i)
    (hlast : p.Finishes k) : p.run = (.ok (p.collected (k + 1)), p.session (k + 1)) := by
  obtain ⟨es, hes⟩ := hlast.exists_entities
  obtain ⟨rounds, hrounds⟩ := exists_rounds hk
  rw [run_eq hcompile, pages_skip (Nat.le_of_lt hk) h, hrounds, p.pages_of_finishes hlast hes,
    p.collected_succ k hes]
  rfl

theorem run_of_fails {k : Nat} {e : Error} (hk : k < p.limit) (h : ∀ i < k, p.Continues i)
    (hlast : p.Fails k e) : p.run = (.error e, p.session (k + 1)) := by
  obtain ⟨rounds, hrounds⟩ := exists_rounds hk
  rw [run_eq hcompile, pages_skip (Nat.le_of_lt hk) h, hrounds, p.pages_of_fails (by omega) hlast]
  rfl

theorem run_of_unfinished (h : ∀ i < p.limit, p.Continues i) :
    p.run = (.error (p.client.queryUnfinished p.query), p.session p.limit) := by
  rw [run_eq hcompile, pages_skip (Nat.le_refl _) h, Nat.sub_self]
  rfl

/-- The first round in which the query does not go on decides about all of it. -/
theorem run_cases :
    (∃ k < p.limit, (∀ i < k, p.Continues i) ∧ p.Finishes k ∧
      p.run = (.ok (p.collected (k + 1)), p.session (k + 1))) ∨
    (∃ k < p.limit, (∀ i < k, p.Continues i) ∧ ∃ e, p.Fails k e ∧
      p.run = (.error e, p.session (k + 1))) ∨
    (∀ i < p.limit, p.Continues i) ∧
      p.run = (.error (p.client.queryUnfinished p.query), p.session p.limit) := by
  by_cases hall : ∀ i < p.limit, p.Continues i
  · exact Or.inr (Or.inr ⟨hall, run_of_unfinished hcompile hall⟩)
  · have hexists : ∃ k, k < p.limit ∧ ¬ p.Continues k := by
      simpa using hall
    classical
    have hk := Nat.find_spec hexists
    have hbefore : ∀ i < Nat.find hexists, p.Continues i := by
      intro i hi
      by_contra hstop
      exact Nat.find_min hexists hi ⟨Nat.lt_trans hi hk.1, hstop⟩
    rcases p.continues_or_finishes_or_fails (Nat.find hexists) with hgo | hdone | ⟨e, hfail⟩
    · exact absurd hgo hk.2
    · exact Or.inl ⟨_, hk.1, hbefore, hdone, run_of_finishes hcompile hk.1 hbefore hdone⟩
    · exact Or.inr (Or.inl ⟨_, hk.1, hbefore, e, hfail, run_of_fails hcompile hk.1 hbefore hfail⟩)

omit hcompile

/-! ### What is sent -/

theorem sent_succ (n : Nat) :
    p.sent (n + 1) = p.sent n ++ [⟨.runQuery, p.request (p.cursor n)⟩] := by
  rw [sent, List.range_succ, List.map_append]
  rfl

/-- Every round that brings a page has sent its request. -/
theorem requests_session {k : Nat} (h : ∀ i < k, ∃ page, p.response i = .ok page) :
    (p.session k).requests = p.start.requests ++ p.sent k := by
  induction k with
  | zero => exact (List.append_nil _).symm
  | succ k ih =>
    obtain ⟨page, hpage⟩ := h k (Nat.lt_succ_self k)
    rw [session_succ, call, Transport.requests_call_of_ok _ hpage,
      ih fun i hi => h i (Nat.lt_succ_of_lt hi), sent_succ, List.append_assoc]

theorem Continues.exists_response {i : Nat} (h : p.Continues i) :
    ∃ page, p.response i = .ok page := by
  obtain ⟨page, _, hpage, _⟩ := h
  exact ⟨page, hpage⟩

/-- After rounds in which the query goes on and one more round, the requests of all of them have
been sent, the last one perhaps not. -/
theorem requests_session_succ {k : Nat} (h : ∀ i < k, p.Continues i) :
    (p.session (k + 1)).requests = p.start.requests ++ p.sent (k + 1) ∨
      (p.session (k + 1)).requests = p.start.requests ++ p.sent k ∧
        ∃ e, p.response k = .error e := by
  have hbefore := p.requests_session fun i hi => (h i hi).exists_response
  rw [session_succ, sent_succ, ← List.append_assoc, ← hbefore]
  exact Transport.requests_call _

/-! ### Results, failures and requests -/

theorem request_cursor (i : Nat) :
    p.request (p.cursor i) =
      { p.request (p.cursor 0) with query := { p.compiled with startCursor := p.cursor i } } := rfl

variable (p) in
include hcompile in
/-- The query sends requests for the pages of some first rounds, and nothing after a round in which
it does not go on. -/
theorem exists_sent :
    ∃ n ≤ p.limit, p.run.2.requests = p.start.requests ++ p.sent n ∧
      (∀ i, i + 1 < n → p.Continues i) ∧
      ∀ k < p.limit, (∀ i < k, p.Continues i) → (∃ page, p.response k = .ok page) → k < n := by
  -- rounds before `k` go on, and the query ends with the round `k`
  have hends : ∀ k < p.limit, (∀ i < k, p.Continues i) → ¬ p.Continues k →
      p.run.2 = p.session (k + 1) →
      ∃ n ≤ p.limit, p.run.2.requests = p.start.requests ++ p.sent n ∧
        (∀ i, i + 1 < n → p.Continues i) ∧
        ∀ k < p.limit, (∀ i < k, p.Continues i) → (∃ page, p.response k = .ok page) → k < n := by
    intro k hk hbefore hstop hrun
    have hlast : ∀ j, (∀ i < j, p.Continues i) → j ≤ k := by
      intro j hj
      by_contra hlt
      exact hstop (hj k (by omega))
    rcases requests_session_succ hbefore with hsent | ⟨hsent, e, herror⟩
    · refine ⟨k + 1, hk, hrun ▸ hsent, fun i hi => hbefore i (by omega), ?_⟩
      intro j _ hj _
      exact Nat.lt_succ_of_le (hlast j hj)
    · refine ⟨k, Nat.le_of_lt hk, hrun ▸ hsent, fun i hi => hbefore i (by omega), ?_⟩
      intro j _ hj ⟨page, hpage⟩
      refine Nat.lt_of_le_of_ne (hlast j hj) ?_
      rintro rfl
      cases herror.symm.trans hpage
  rcases run_cases hcompile with ⟨k, hk, hbefore, hdone, hrun⟩ | ⟨k, hk, hbefore, e, hfail, hrun⟩ |
    ⟨hall, hrun⟩
  · exact hends k hk hbefore (p.not_continues_of_finishes hdone) (by rw [hrun])
  · exact hends k hk hbefore (p.not_continues_of_fails hfail) (by rw [hrun])
  · refine ⟨p.limit, Nat.le_refl _, ?_, fun i hi => hall i (by omega), fun k hk _ _ => hk⟩
    rw [hrun]
    exact requests_session fun i hi => (hall i hi).exists_response

/-- A query in an open transaction is the query that names the transaction; the transaction stays as
it is. -/
theorem query_of_active {t : Transaction} (h : t.state = .active)
    (ht : p.transaction = some t.id) :
    Transaction.query p.client p.service p.query (t, p.start) = (p.run.1, t, p.run.2) := by
  have hactive : (Transaction.requireActive "query" : Transaction.Step σ Transaction) (t, p.start) =
      (.ok t, (t, p.start)) := by
    rw [Transaction.requireActive, if_pos h]
  refine (Action.bind_of_ok _ hactive).trans ?_
  rw [run, ht]
  rfl

end Paging

/-- **The pages of a query.** Whatever the service answers, a query that compiles returns exactly if
some round within the limit is the first that does not go on, and is finished; the result is what
the pages up to then hold. It fails exactly if that round fails, with its error, or if there is no
such round. The requests are those for the pages, each the first request with the cursor that the
page before ended at; there are no more than the limit, and none follows a round that does not go
on. All of it holds in an open transaction as well. -/
theorem runQuery_pages (p : Paging σ) (h : p.query.compile p.client.projectId = .ok p.compiled) :
    (∀ es, p.run.1 = .ok es ↔
      ∃ k < p.limit, (∀ i < k, p.Continues i) ∧ p.Finishes k ∧ es = p.collected (k + 1)) ∧
    (∀ e, p.run.1 = .error e ↔
      (∃ k < p.limit, (∀ i < k, p.Continues i) ∧ p.Fails k e) ∨
        (∀ i < p.limit, p.Continues i) ∧ e = p.client.queryUnfinished p.query) ∧
    (∃ n ≤ p.limit, p.run.2.requests = p.start.requests ++ p.sent n ∧
      (∀ i, i + 1 < n → p.Continues i) ∧
      ∀ k < p.limit, (∀ i < k, p.Continues i) → (∃ page, p.response k = .ok page) → k < n) ∧
    ((p.request (p.cursor 0)).query = p.compiled ∧
      ∀ i page, p.response i = .ok page → p.request (p.cursor (i + 1)) =
        { p.request (p.cursor 0) with
          query := { p.compiled with startCursor := page.endCursor } }) ∧
    ∀ t : Transaction, t.state = .active → p.transaction = some t.id →
      Transaction.query p.client p.service p.query (t, p.start) = (p.run.1, t, p.run.2) := by
  refine ⟨?_, ?_, p.exists_sent h, ⟨rfl, ?_⟩, fun t => Paging.query_of_active⟩
  · intro es
    constructor
    · intro hes
      rcases Paging.run_cases h with ⟨k, hk, hbefore, hdone, hrun⟩ | ⟨k, _, _, e, _, hrun⟩ |
        ⟨_, hrun⟩
      · rw [hrun] at hes
        exact ⟨k, hk, hbefore, hdone, (Except.ok.inj hes).symm⟩
      · rw [hrun] at hes
        cases hes
      · rw [hrun] at hes
        cases hes
    · rintro ⟨k, hk, hbefore, hdone, rfl⟩
      rw [Paging.run_of_finishes h hk hbefore hdone]
  · intro e
    constructor
    · intro he
      rcases Paging.run_cases h with ⟨k, _, _, _, hrun⟩ | ⟨k, hk, hbefore, e', hfail, hrun⟩ |
        ⟨hall, hrun⟩
      · rw [hrun] at he
        cases he
      · rw [hrun] at he
        obtain rfl := Except.error.inj he
        exact Or.inl ⟨k, hk, hbefore, hfail⟩
      · rw [hrun] at he
        exact Or.inr ⟨hall, (Except.error.inj he).symm⟩
    · rintro (⟨k, hk, hbefore, hfail⟩ | ⟨hall, rfl⟩)
      · rw [Paging.run_of_fails h hk hbefore hfail]
      · rw [Paging.run_of_unfinished h hall]
  · intro i page hpage
    rw [p.request_cursor (i + 1), p.cursor_succ hpage]

/-! ### A service with pages of one size -/

/-- The number of results that a query message skips. -/
def Wire.Query.skipped (q : Wire.Query) : Nat := q.offset.toInt.toNat

/-- The largest number of results that a query message allows. -/
def Wire.Query.most? (q : Wire.Query) : Option Nat := q.limit.map fun l => l.toInt.toNat

/-- The page that answers a query over stored entities if a page shows `size` of them at most. A
cursor has as many bytes as there are entities before it. -/
def Wire.Query.page (stored : List Wire.Entity) (size : Nat) (q : Wire.Query) : Wire.Batch :=
  let first := q.startCursor.length + q.skipped
  let results := (stored.drop first).take (min size (q.most?.getD size))
  ⟨results, List.replicate (first + results.length) 0,
    if first + results.length < stored.length && q.most? != some results.length then
      Client.unfinished
    else 3⟩

/-- A service that holds entities and answers every query with pages of one size. -/
def Service.paged (stored : List Wire.Entity) (size : Nat) : Service Unit where
  token w := (.ok "owner", w)
  openChannel w := (.ok (), w)
  buildStub w := (.ok (), w)
  closeChannel w := (.ok (), w)
  answer
    | .runQuery, request, w => (.ok (Wire.Query.page stored size request.query), w)
    | _, _, w => (.error (.runtime "unsupported"), w)

/-- A stored task. -/
def storedTask (name : String) : Wire.Entity :=
  ⟨some ⟨none, [⟨"Task", some (.name name)⟩]⟩, []⟩

/-- A task. -/
def task (name : String) : Entity :=
  ⟨.root none ⟨"Task", some (.name name), false, false⟩, []⟩

/-- A query for tasks, of which a page shows one. -/
def tasks (names : List String) (skip : Nat) (max? : Option Nat) : Paging Unit where
  client := ⟨"p", Config.ofProject "p", .empty⟩
  service := .paged (names.map storedTask) 1
  transaction := none
  query := ⟨"Task", false, false, skip, max?, none, [], [], [], [], none⟩
  compiled := ⟨[], ["Task"], [], [], [], [], .ofInt skip, max?.map fun l => .ofInt l⟩
  start := ⟨(), true, true, true, []⟩

/-- Two pages with a task each. -/
theorem runQuery_pages_tasks :
    (tasks ["a", "b"] 0 none).run.1 = .ok [task "a", task "b"] := by
  refine ((runQuery_pages (tasks ["a", "b"] 0 none) rfl).1 _).mpr ⟨1, by decide, ?_, ?_, rfl⟩
  · intro i hi
    obtain rfl : i = 0 := by omega
    exact ⟨_, _, rfl, rfl, rfl, by decide⟩
  · exact ⟨_, _, rfl, rfl, rfl, by decide⟩

end EntityStore
