import EntityStore.Proofs.Lookup.Reports
import EntityStore.Proofs.Query.Pages
import EntityStore.Proofs.Wire.Faults

/-!
# Answers that cannot be read

A query or a lookup fails with the first entity that it cannot read. This is a failure to decode,
unless a timestamp outside of the calendar stands before every other fault of that entity.

* `Paging.StraysWith`, `Fetch.StraysWith` — the calls that such a timestamp ends;
* `Paging.FailsOutside`, `Fetch.FailsOutside` — the calls that fail for another reason than an
  entity;
* `Paging.reads_run`, `Fetch.reads_getAll` — what comes of queries and lookups;
* `unreadable_fails` — how every answer that cannot be read surfaces.
-/

namespace EntityStore

open Wire (ReadsBut Reads)

variable {σ : Type}

/-! ### Queries -/

namespace Paging

variable (p : Paging σ)

/-- The first entity that the query cannot read has a timestamp outside of the calendar before
everything else that is wrong with it. -/
def StraysWith (fault : ValueFault) : Prop :=
  ∃ k < p.limit, (∀ i < k, p.Continues i) ∧
    ∃ page, p.response k = .ok page ∧ Wire.Entity.StrayAmong page.results fault

/-- The query reads all entities that it is shown, and fails all the same: a call fails, there are
more results behind the cursor that a round started at, or no round is left. -/
def FailsOutside (e : Error) : Prop :=
  (∃ k < p.limit, (∀ i < k, p.Continues i) ∧
    (p.response k = .error e ∨ ∃ page es, p.response k = .ok page ∧
      page.results.mapM Wire.Entity.decode = .ok es ∧ page.progress = Client.unfinished ∧
      page.endCursor = p.cursor k ∧ e = Client.queryStalled p.query (k + 1))) ∨
  (∀ i < p.limit, p.Continues i) ∧ e = p.client.queryUnfinished p.query

variable {p}

theorem reads_run (hcompile : p.query.compile p.client.projectId = .ok p.compiled) :
    ReadsBut p.StraysWith p.FailsOutside p.run.1 where
  undecodable := by
    intro e he
    rcases run_cases hcompile with ⟨k, -, -, -, hrun⟩ | ⟨k, hk, hbefore, e', hfail, hrun⟩ |
      ⟨hall, hrun⟩
    · rw [hrun] at he
      cases he
    · rw [hrun] at he
      obtain rfl : e' = e := Except.error.inj he
      rcases hfail with herror | ⟨page, hpage, hread | ⟨es, hread, ⟨-, rfl⟩ | ⟨hmore, hstill, he'⟩⟩⟩
      · exact .inr (.inr (.inl ⟨k, hk, hbefore, .inl herror⟩))
      · rcases (Wire.Entity.reads_mapM page.results).undecodable e' hread with
          hdecode | ⟨fault, hstray, rfl⟩ | hfalse
        · exact .inl hdecode
        · exact .inr (.inl ⟨fault, ⟨k, hk, hbefore, page, hpage, hstray⟩, rfl⟩)
        · exact hfalse.elim
      · exact .inl ⟨_, rfl⟩
      · exact .inr (.inr (.inl
          ⟨k, hk, hbefore, .inr ⟨page, es, hpage, hread, hmore, hstill, he'⟩⟩))
    · rw [hrun] at he
      exact .inr (.inr (.inr ⟨hall, (Except.error.inj he).symm⟩))
  strays := by
    rintro fault ⟨k, hk, hbefore, page, hpage, hstray⟩
    have hread := (Wire.Entity.reads_mapM page.results).strays fault hstray
    rw [run_of_fails hcompile hk hbefore (.inr ⟨page, hpage, .inl hread⟩)]

end Paging

/-! ### Lookups -/

namespace Fetch

variable (f : Fetch σ)

/-- The lookup asks for keys in a round, and this round is not answered: the call fails, or an
entity is not read. -/
def Fails (i : Nat) (e : Error) : Prop :=
  f.pending i ≠ [] ∧ (f.response i = .error e ∨
    ∃ r, f.response i = .ok r ∧ r.found.mapM Wire.Entity.decode = .error e)

/-- The first entity that the lookup cannot read has a timestamp outside of the calendar before
everything else that is wrong with it. -/
def StraysWith (fault : ValueFault) : Prop :=
  ∃ k < f.limit, (∀ i < k, f.pending i ≠ [] ∧ f.Answered i) ∧ f.pending k ≠ [] ∧
    ∃ r, f.response k = .ok r ∧ Wire.Entity.StrayAmong r.found fault

/-- The lookup reads all entities that it is shown, and fails all the same: a call fails, or keys
are left when no round is. -/
def FailsOutside (e : Error) : Prop :=
  (∃ k < f.limit, (∀ i < k, f.pending i ≠ [] ∧ f.Answered i) ∧ f.pending k ≠ [] ∧
    f.response k = .error e) ∨
  (∀ i < f.limit, f.pending i ≠ [] ∧ f.Answered i) ∧ f.pending f.limit ≠ [] ∧
    e = f.client.lookupUnfinished (f.pending f.limit).length

/-- The lookup reads all its entities, and one of them does not describe an object of the type that
is asked for. -/
def Mismatches (s : Schema) (into : Option Target) (e : Error) : Prop :=
  ∃ es, f.run.1 = .ok es ∧ es.mapM (Client.present s into) = .error e

theorem answered_or_fails {i : Nat} (hleft : f.pending i ≠ []) :
    f.Answered i ∨ ∃ e, f.Fails i e := by
  cases hresponse : f.response i with
  | error e => exact .inr ⟨e, hleft, .inl hresponse⟩
  | ok r =>
    cases hread : r.found.mapM Wire.Entity.decode with
    | error e => exact .inr ⟨e, hleft, .inr ⟨r, hresponse, hread⟩⟩
    | ok es => exact .inl ⟨r, es, hresponse, hread⟩

theorem rest_of_fails {rounds i : Nat} {e : Error} (h : f.Fails i e) :
    f.rest (rounds + 1) i = (.error e, f.session (i + 1)) := by
  obtain ⟨hleft, h⟩ := h
  have hcall := f.call_eq i
  rw [rest]
  cases hpending : f.pending i with
  | nil => exact absurd hpending hleft
  | cons key keys =>
    rw [hpending] at hcall
    rcases h with herror | ⟨r, hresponse, hread⟩
    · rw [herror] at hcall
      exact Action.bind_of_error _ hcall
    · rw [hresponse] at hcall
      exact (Action.bind_of_ok _ hcall).trans (Action.ofOutcome_bind_of_error _ _ hread)

variable {f}

theorem run_of_fails {k : Nat} {e : Error} (hk : k < f.limit)
    (h : ∀ i < k, f.pending i ≠ [] ∧ f.Answered i) (hfails : f.Fails k e) :
    f.run = (.error e, f.session (k + 1)) := by
  rw [run_eq, rest_skip (Nat.le_of_lt hk) h, show f.limit - k = f.limit - k - 1 + 1 by omega,
    f.rest_of_fails hfails]
  rfl

variable (f) in
/-- The first round that has no key left, or is not answered, decides about a lookup. -/
theorem run_cases :
    (∃ k ≤ f.limit, ∃ es, f.run = (.ok es, f.session k)) ∨
    (∃ k < f.limit, (∀ i < k, f.pending i ≠ [] ∧ f.Answered i) ∧ ∃ e, f.Fails k e ∧
      f.run = (.error e, f.session (k + 1))) ∨
    (∀ i < f.limit, f.pending i ≠ [] ∧ f.Answered i) ∧ f.pending f.limit ≠ [] ∧
      f.run = (.error (f.client.lookupUnfinished (f.pending f.limit).length),
        f.session f.limit) := by
  by_cases hall : ∀ i < f.limit, f.pending i ≠ [] ∧ f.Answered i
  · by_cases hdone : f.pending f.limit = []
    · exact .inl ⟨f.limit, Nat.le_refl _, _, run_of_done (Nat.le_refl _) hall hdone⟩
    · exact .inr (.inr ⟨hall, hdone, f.run_of_unfinished hall hdone⟩)
  · have hexists : ∃ k, k < f.limit ∧ ¬ (f.pending k ≠ [] ∧ f.Answered k) := by
      simpa using hall
    classical
    have hk := Nat.find_spec hexists
    have hbefore : ∀ i < Nat.find hexists, f.pending i ≠ [] ∧ f.Answered i := by
      intro i hi
      by_contra hstop
      exact Nat.find_min hexists hi ⟨Nat.lt_trans hi hk.1, hstop⟩
    by_cases hdone : f.pending (Nat.find hexists) = []
    · exact .inl ⟨_, Nat.le_of_lt hk.1, _, run_of_done (Nat.le_of_lt hk.1) hbefore hdone⟩
    · rcases f.answered_or_fails hdone with hanswered | ⟨e, hfails⟩
      · exact absurd ⟨hdone, hanswered⟩ hk.2
      · exact .inr (.inl ⟨_, hk.1, hbefore, e, hfails, run_of_fails hk.1 hbefore hfails⟩)

theorem reads_run : ReadsBut f.StraysWith f.FailsOutside f.run.1 where
  undecodable := by
    intro e he
    rcases f.run_cases with ⟨k, -, es, hrun⟩ | ⟨k, hk, hbefore, e', ⟨hleft, hfails⟩, hrun⟩ |
      ⟨hall, hleft, hrun⟩
    · rw [hrun] at he
      cases he
    · rw [hrun] at he
      obtain rfl : e' = e := Except.error.inj he
      rcases hfails with herror | ⟨r, hresponse, hread⟩
      · exact .inr (.inr (.inl ⟨k, hk, hbefore, hleft, herror⟩))
      · rcases (Wire.Entity.reads_mapM r.found).undecodable e' hread with
          hdecode | ⟨fault, hstray, rfl⟩ | hfalse
        · exact .inl hdecode
        · exact .inr (.inl ⟨fault, ⟨k, hk, hbefore, hleft, r, hresponse, hstray⟩, rfl⟩)
        · exact hfalse.elim
    · rw [hrun] at he
      exact .inr (.inr (.inr ⟨hall, hleft, (Except.error.inj he).symm⟩))
  strays := by
    rintro fault ⟨k, hk, hbefore, hleft, r, hresponse, hstray⟩
    have hread := (Wire.Entity.reads_mapM r.found).strays fault hstray
    rw [run_of_fails hk hbefore ⟨hleft, .inr ⟨r, hresponse, hread⟩⟩]

variable (f) in
theorem reads_getAll (s : Schema) (into : Option Target) :
    ReadsBut f.StraysWith (fun e => f.FailsOutside e ∨ f.Mismatches s into e)
      (f.client.getAll f.service s f.transaction (f.keys.map .key) into f.start).1 where
  undecodable := by
    intro e he
    rw [f.getAll_eq] at he
    cases hrun : f.run.1 with
    | error e' =>
      rw [hrun] at he
      obtain rfl : e' = e := Except.error.inj he
      exact (reads_run.undecodable e' hrun).imp_right (.imp_right .inl)
    | ok es =>
      rw [hrun] at he
      exact .inr (.inr (.inr ⟨es, hrun, he⟩))
  strays := by
    intro fault hstray
    rw [f.getAll_eq, reads_run.strays fault hstray]
    rfl

end Fetch

/-! ### Every answer -/

/-- **How an answer that cannot be read surfaces.** Keys and the results of commits always fail with
a failure to decode. A value is read unless a node of it is faulty, and fails with its first faulty
node; a value, an entity, a query and a lookup fail with a failure to decode as well, except where
the first fault is a timestamp outside of the calendar: there they always fail, and with the refusal
of this timestamp as a value. Queries and lookups can fail for reasons outside of the answers, and
lookups because of the type that is asked for. -/
theorem unreadable_fails :
    (∀ k : Wire.Key, Reads (fun _ => False) k.decode) ∧
    (∀ w : Wire.Value,
      Outcome.FailsAtFirst w.nodes (fun node => node.content.IsFaulty) w.decode ∧
      Reads (Wire.StraysFirst w.nodes) w.decode) ∧
    (∀ e : Wire.Entity, Reads e.StraysFirst e.decode) ∧
    (∀ (r : Wire.CommitResponse) (kinds : List MutationKind),
      Reads (fun _ => False) (Mutation.keys r kinds)) ∧
    (∀ p : Paging σ, p.query.compile p.client.projectId = .ok p.compiled →
      ReadsBut p.StraysWith p.FailsOutside p.run.1) ∧
    (∀ (f : Fetch σ) (s : Schema) (into : Option Target),
      ReadsBut f.StraysWith (fun e => f.FailsOutside e ∨ f.Mismatches s into e)
        (f.client.getAll f.service s f.transaction (f.keys.map .key) into f.start).1) :=
  ⟨Wire.Key.reads_decode, fun w => ⟨w.failsAtFirst_decode, w.reads_decode⟩,
    Wire.Entity.reads_decode, Mutation.reads_keys, fun _ => Paging.reads_run, Fetch.reads_getAll⟩

/-- The first moment of the year 10000. -/
def lateTimestamp : Wire.Value := .plain (.timestamp 253402300800 0) false

/-- A task that is due at a time, if this can be read, and has a value without a variant. -/
def dueTask (due : Wire.Value) : Wire.Entity :=
  ⟨some ⟨none, [⟨"Task", some (.name "a")⟩]⟩, [("due", due), ("done", .plain .unset false)]⟩

/-- A query whose first page shows such a task. -/
def dueTasks (due : Wire.Value) : Paging Script where
  client := ⟨"p", Config.ofProject "p", .empty⟩
  service := .playing
  transaction := none
  query := ⟨"Task", false, false, 0, none, none, [], [], [], [], none⟩
  compiled := ⟨[], ["Task"], [], [], [], [], 0, none⟩
  start := .playing [⟨.runQuery, .ok ⟨[dueTask due], [], 3⟩⟩]

/-- The task is read up to its first fault, and the query fails with it. -/
theorem unreadable_fails_due :
    (dueTasks (.plain (.timestamp 0 0) false)).run.1 = .error (.decode .unsetValue) ∧
    (dueTasks lateTimestamp).run.1 = .error (.value (.timestampSeconds 253402300800)) := by
  obtain ⟨-, -, -, -, hqueries, -⟩ := unreadable_fails (σ := Script)
  refine ⟨rfl, (hqueries (dueTasks lateTimestamp) rfl).strays _ ?_⟩
  refine ⟨0, by decide, nofun, _, rfl, [], dueTask lateTimestamp, [], rfl, nofun, nofun, ?_⟩
  exact ⟨[], lateTimestamp, _, _, _, rfl, nofun, rfl, .seconds (.inr (by decide))⟩

/-- **Not every value that cannot be read fails with a failure to decode.** -/
theorem not_fails_decoding :
    ¬ ∀ w : Wire.Value, (∃ v, w.decode = .ok v) ∨ ∃ fault, w.decode = .error (.decode fault) := by
  intro h
  have hlate : lateTimestamp.decode = .error (.value (.timestampSeconds 253402300800)) := rfl
  rcases h lateTimestamp with ⟨v, hv⟩ | ⟨fault, hfault⟩
  · cases hlate.symm.trans hv
  · cases hlate.symm.trans hfault

end EntityStore
