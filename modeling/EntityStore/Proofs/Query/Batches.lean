import EntityStore.Proofs.Outcome
import EntityStore.Proofs.Query.Compilation
import EntityStore.Proofs.Query.Pages
import Mathlib.Data.List.Basic

/-!
# Queries over a fixed list of results

A service that holds a fixed list of results may cut them into pages as it likes. Every request
repeats the offset and the limit of the query, so each page skips results anew and may be as long as
the limit allows.

* `Wire.Batch.Shows` — a page that shows results from a place on;
* `Paging.IsServed` — a service that answers all requests of a query with such pages;
* `Paging.wanted` — the results that the query asks for;
* `runQuery_batches` — when these are the results that the query returns.
-/

namespace EntityStore

variable {σ : Type}

/-- A page shows `es` of the results from the place `first` on: a beginning of what follows, which
is empty only if nothing follows or nothing may be shown, and no longer than allowed. Its end cursor
stands behind the last of them, and it reports that there are more exactly if results remain and
the page is shorter than allowed. -/
structure Wire.Batch.Shows (page : Wire.Batch) (position : Bytes → Option Nat)
    (results : List EntityStore.Entity) (first : Nat) (most? : Option Nat)
    (es : List EntityStore.Entity) : Prop where
  read : page.results.mapM Wire.Entity.decode = .ok es
  isPrefix : es <+: results.drop first
  nonempty : first < results.length → most? ≠ some 0 → es ≠ []
  atMost : ∀ l, most? = some l → es.length ≤ l
  endsAt : es ≠ [] → position page.endCursor = some (first + es.length)
  known : Client.isKnownProgress page.progress = true
  unfinished_iff : page.progress = Client.unfinished ↔
    first + es.length < results.length ∧ ∀ l, most? = some l → es.length < l

namespace Paging

/-- The service holds the results of the query, in an order that its cursors refer to: a request
from a cursor that stands somewhere is answered with a page that shows what follows the results that
the request skips. -/
structure IsServed (p : Paging σ) (position : Bytes → Option Nat) (results : List Entity) :
    Prop where
  connected : p.start.hasStub = true
  granted : ∀ w, ∃ token w', p.service.token w = (.ok token, w')
  answered : ∀ cursor s w, position cursor = some s →
    ∃ page es w', p.service.answer .runQuery (p.request cursor) w = (.ok page, w') ∧
      page.Shows position results (s + (p.request cursor).query.skipped)
        (p.request cursor).query.most? es

variable (p : Paging σ)

/-- The results that the query asks for, from the place where its own cursor stands. -/
def wanted (results : List Entity) (start : Nat) : List Entity :=
  match p.query.max? with
  | none => results.drop (start + p.query.skip)
  | some l => (results.drop (start + p.query.skip)).take l

/-- The number of entities on the page of a round. -/
def size (i : Nat) : Nat := ((p.entities i).toOption.getD []).length

/-- The place of each round, which lies behind the results that the rounds before it have skipped
and shown. -/
def place (start : Nat) : Nat → Nat
  | 0 => start
  | i + 1 => place start i + p.query.skip + p.size i

/-! ### The message of a query -/

/-- The message has the offset and the limit of the query. -/
theorem compile_eq_ok {project : String} {q : Query} {w : Wire.Query}
    (h : q.compile project = .ok w) : w.skipped = q.skip ∧ w.most? = q.max? := by
  have hw := Query.compile_eq_ok h
  constructor
  · rw [Wire.Query.skipped, hw.offset, Int.toNat_natCast]
  · have hmost : w.most? = (w.limit.map Int32.toInt).map Int.toNat := by
      rw [Option.map_map]
      rfl
    rw [hmost, hw.limit]
    cases q.max? <;> rfl

/-! ### Rounds of a service with fixed results -/

variable {p} {position : Bytes → Option Nat} {results : List Entity} {start : Nat}

@[simp] theorem hasStub_session (i : Nat) : (p.session i).hasStub = p.start.hasStub := by
  induction i with
  | zero => rfl
  | succ i ih =>
    rw [session_succ]
    exact (Transport.hasStub_call _).trans ih

theorem size_eq {i : Nat} {es : List Entity} (h : p.entities i = .ok es) :
    p.size i = es.length := by
  rw [size, h]
  rfl

/-- A service that holds the results is asked with the offset and the limit of the query in every
round. -/
theorem IsServed.shows (hserved : p.IsServed position results)
    (hcompile : p.query.compile p.client.projectId = .ok p.compiled) {i s : Nat}
    (hcursor : position (p.cursor i) = some s) :
    ∃ page es, p.response i = .ok page ∧ p.entities i = .ok es ∧
      page.Shows position results (s + p.query.skip) p.query.max? es := by
  obtain ⟨token, w, htoken⟩ := hserved.granted (p.session i).world
  obtain ⟨page, es, w', hanswer, hshows⟩ := hserved.answered (p.cursor i) s w hcursor
  have hstub : (p.session i).hasStub = true := (hasStub_session i).trans hserved.connected
  have hresponse : p.response i = .ok page :=
    (congrArg Prod.fst (Transport.call_answered _ htoken hstub)).trans (congrArg Prod.fst hanswer)
  obtain ⟨hskipped, hmost⟩ := compile_eq_ok hcompile
  have hrequest : (p.request (p.cursor i)).query.skipped = p.query.skip ∧
      (p.request (p.cursor i)).query.most? = p.query.max? := ⟨hskipped, hmost⟩
  rw [hrequest.1, hrequest.2] at hshows
  exact ⟨page, es, hresponse, p.entities_eq hresponse hshows.read, hshows⟩

/-- What a round tells in which the query goes on. -/
theorem Continues.remaining {i : Nat} {page : Wire.Batch} {es : List Entity} {first : Nat}
    {most? : Option Nat} (h : p.Continues i) (hresponse : p.response i = .ok page)
    (hshows : page.Shows position results first most? es) :
    es ≠ [] ∧ first + es.length < results.length ∧ ∀ l, most? = some l → es.length < l := by
  obtain ⟨page', _, hresponse', _, hmore, _⟩ := h
  obtain rfl := Except.ok.inj (hresponse.symm.trans hresponse')
  obtain ⟨hrest, hshort⟩ := hshows.unfinished_iff.mp hmore
  refine ⟨hshows.nonempty (by omega) ?_, hrest, hshort⟩
  intro hzero
  exact Nat.not_lt_zero _ (hshort 0 hzero)

/-- What a round tells in which the query is finished. -/
theorem Finishes.exhausted {i : Nat} {page : Wire.Batch} {es : List Entity} {first : Nat}
    {most? : Option Nat} (h : p.Finishes i) (hresponse : p.response i = .ok page)
    (hshows : page.Shows position results first most? es) :
    results.length ≤ first + es.length ∨ ∃ l, most? = some l ∧ l ≤ es.length := by
  obtain ⟨page', _, hresponse', _, _, hdone⟩ := h
  obtain rfl := Except.ok.inj (hresponse.symm.trans hresponse')
  by_contra hmore
  refine hdone (hshows.unfinished_iff.mpr ⟨?_, ?_⟩)
  · by_contra hrest
    exact hmore (Or.inl (Nat.not_lt.mp hrest))
  · intro l hl
    by_contra hlong
    exact hmore (Or.inr ⟨l, hl, Nat.not_lt.mp hlong⟩)

/-- A page of such a service never fails the query. -/
theorem not_fails_of_shows {i s : Nat} {page : Wire.Batch} {es : List Entity}
    (hcursor : position (p.cursor i) = some s) (hresponse : p.response i = .ok page)
    (hshows : page.Shows position results (s + p.query.skip) p.query.max? es) (e : Error) :
    ¬ p.Fails i e := by
  rintro (herror | ⟨page', hresponse', hfails⟩)
  · cases herror.symm.trans hresponse
  obtain rfl := Except.ok.inj (hresponse.symm.trans hresponse')
  rcases hfails with herror | ⟨_, _, ⟨hunknown, _⟩ | ⟨hmore, hstill, _⟩⟩
  · cases herror.symm.trans hshows.read
  · rw [hshows.known] at hunknown
    cases hunknown
  · obtain ⟨hrest, hshort⟩ := hshows.unfinished_iff.mp hmore
    have hne : es ≠ [] := by
      refine hshows.nonempty (by omega) ?_
      intro hzero
      exact Nat.not_lt_zero _ (hshort 0 hzero)
    have hmoved := hshows.endsAt hne
    rw [hstill, hcursor] at hmoved
    have hpos := List.length_pos_iff.mpr hne
    have heq := Option.some.inj hmoved
    omega

theorem place_succ_of_no_skip (start : Nat) (hskip : p.query.skip = 0) {i : Nat} {es : List Entity}
    (h : p.entities i = .ok es) : p.place start (i + 1) = p.place start i + es.length := by
  rw [place, size_eq h, hskip, Nat.add_zero (p.place start i)]

theorem place_mono {i j : Nat} (h : i ≤ j) : p.place start i ≤ p.place start j := by
  induction h with
  | refl => exact Nat.le_refl _
  | step _ ih =>
    rw [place]
    omega

section Served

variable (hcompile : p.query.compile p.client.projectId = .ok p.compiled)
  (hserved : p.IsServed position results) (hstart : position p.compiled.startCursor = some start)
include hcompile hserved hstart

/-- **The place of every round**: as long as the query goes on, each round starts where the page
before it ends. -/
theorem position_cursor {k : Nat} (h : ∀ i < k, p.Continues i) :
    position (p.cursor k) = some (p.place start k) := by
  induction k with
  | zero => exact hstart
  | succ k ih =>
    have hgo := h k (Nat.lt_succ_self k)
    obtain ⟨page, es, hresponse, hentities, hshows⟩ :=
      hserved.shows hcompile (ih fun i hi => h i (Nat.lt_succ_of_lt hi))
    obtain ⟨hne, _, _⟩ := hgo.remaining hresponse hshows
    rw [p.cursor_succ hresponse, hshows.endsAt hne, place, size_eq hentities]

theorem shows_of_continues {k : Nat} (h : ∀ i < k, p.Continues i) :
    ∃ page es, p.response k = .ok page ∧ p.entities k = .ok es ∧
      page.Shows position results (p.place start k + p.query.skip) p.query.max? es :=
  hserved.shows hcompile (position_cursor hcompile hserved hstart h)

theorem shows_first :
    ∃ page es, p.response 0 = .ok page ∧ p.entities 0 = .ok es ∧
      page.Shows position results (start + p.query.skip) p.query.max? es :=
  shows_of_continues hcompile hserved hstart fun i hi => absurd hi (Nat.not_lt_zero i)

/-- The query ends with a round in which it is finished, or it uses up all rounds. -/
theorem finishes_or_unfinished :
    (∃ k < p.limit, (∀ i < k, p.Continues i) ∧ p.Finishes k) ∨
      p.run.1 = .error (p.client.queryUnfinished p.query) := by
  rcases run_cases hcompile with ⟨k, hk, hbefore, hdone, _⟩ | ⟨k, _, hbefore, e, hfail, _⟩ |
    ⟨_, hrun⟩
  · exact Or.inl ⟨k, hk, hbefore, hdone⟩
  · obtain ⟨page, es, hresponse, _, hshows⟩ :=
      shows_of_continues hcompile hserved hstart hbefore
    exact absurd hfail (not_fails_of_shows (position_cursor hcompile hserved hstart hbefore)
      hresponse hshows e)
  · exact Or.inr (by rw [hrun])

/-- The place after a round that the query goes on in lies before the end of the results, and at
least one result further. -/
theorem place_lt {k i : Nat} (h : ∀ i < k, p.Continues i) (hi : i < k) :
    p.place start i + p.query.skip < p.place start (i + 1) ∧
      p.place start (i + 1) < results.length := by
  obtain ⟨page, es, hresponse, hentities, hshows⟩ :=
    shows_of_continues hcompile hserved hstart fun j hj => h j (Nat.lt_trans hj hi)
  obtain ⟨hne, hrest, _⟩ := (h i hi).remaining hresponse hshows
  have hpos := List.length_pos_iff.mpr hne
  rw [place, size_eq hentities]
  exact ⟨by omega, hrest⟩

theorem start_lt_place {k : Nat} (h : ∀ i < k, p.Continues i) (hk : 0 < k) :
    start < p.place start k := by
  have hfirst := (place_lt hcompile hserved hstart h hk).1
  have hmono : p.place start (0 + 1) ≤ p.place start k := place_mono hk
  have hzero : p.place start 0 = start := rfl
  omega

/-! ### Without an offset -/

/-- Without an offset, the pages of the rounds up to one lie side by side. -/
theorem collected_of_no_skip (hskip : p.query.skip = 0) {k : Nat} (h : ∀ i < k, p.Continues i) :
    start ≤ p.place start (k + 1) ∧
      p.collected (k + 1) = (results.drop start).take (p.place start (k + 1) - start) := by
  induction k with
  | zero =>
    obtain ⟨page, es, _, hentities, hshows⟩ := shows_of_continues hcompile hserved hstart h
    have hplace : p.place start (0 + 1) = start + es.length :=
      place_succ_of_no_skip start hskip hentities
    have hes := List.prefix_iff_eq_take.mp hshows.isPrefix
    rw [hskip] at hes
    refine ⟨by omega, ?_⟩
    rw [p.collected_succ 0 hentities, hplace, Nat.add_sub_cancel_left]
    exact hes
  | succ k ih =>
    obtain ⟨hle, hcollected⟩ := ih fun i hi => h i (Nat.lt_succ_of_lt hi)
    obtain ⟨page, es, _, hentities, hshows⟩ := shows_of_continues hcompile hserved hstart h
    have hplace := place_succ_of_no_skip start hskip hentities
    have hes := List.prefix_iff_eq_take.mp hshows.isPrefix
    rw [hskip, Nat.add_zero] at hes
    have hdrop : (results.drop start).drop (p.place start (k + 1) - start) =
        results.drop (p.place start (k + 1)) := by
      rw [List.drop_drop, show start + (p.place start (k + 1) - start) = p.place start (k + 1) by
        omega]
    refine ⟨by omega, ?_⟩
    rw [p.collected_succ (k + 1) hentities, hcollected, hplace,
      show p.place start (k + 1) + es.length - start =
        (p.place start (k + 1) - start) + es.length by omega, List.take_add, hdrop, ← hes]

/-- Without an offset and with no more results than the limit allows, all results are returned. -/
theorem collected_of_enough (hskip : p.query.skip = 0)
    (henough : ∀ l, p.query.max? = some l → results.length ≤ start + l) {k : Nat}
    (h : ∀ i < k, p.Continues i) (hlast : p.Finishes k) :
    p.collected (k + 1) = p.wanted results start := by
  obtain ⟨page, es, hresponse, hentities, hshows⟩ := shows_of_continues hcompile hserved hstart h
  obtain ⟨_, hcollected⟩ := collected_of_no_skip hcompile hserved hstart hskip h
  have hplace := place_succ_of_no_skip start hskip hentities
  have hbehind : start ≤ p.place start k := by
    rcases Nat.eq_zero_or_pos k with rfl | hpos
    · exact Nat.le_refl _
    · exact Nat.le_of_lt (start_lt_place hcompile hserved hstart h hpos)
  have hall : results.length ≤ p.place start (k + 1) := by
    rcases hlast.exhausted hresponse hshows with hrest | ⟨l, hl, hle⟩
    · omega
    · have hbound := henough l hl
      omega
  have hlength : (results.drop start).length ≤ p.place start (k + 1) - start := by
    rw [List.length_drop]
    omega
  rw [hcollected, List.take_of_length_le hlength, wanted, hskip, Nat.add_zero]
  cases hmax : p.query.max? with
  | none => rfl
  | some l =>
    have hbound := henough l hmax
    have hshort : (results.drop start).length ≤ l := by
      rw [List.length_drop]
      omega
    exact (List.take_of_length_le hshort).symm

/-- A query whose limit is smaller than the number of results is answered beyond its limit, or cut
off too early, when it takes more than one page. -/
theorem enough_of_collected (hskip : p.query.skip = 0) {k l : Nat} (hpos : 0 < k)
    (h : ∀ i < k, p.Continues i) (hlast : p.Finishes k) (hmax : p.query.max? = some l)
    (heq : p.collected (k + 1) = p.wanted results start) : results.length ≤ start + l := by
  obtain ⟨page, es, hresponse, hentities, hshows⟩ := shows_of_continues hcompile hserved hstart h
  obtain ⟨_, hcollected⟩ := collected_of_no_skip hcompile hserved hstart hskip h
  have hplace := place_succ_of_no_skip start hskip hentities
  have hbehind := start_lt_place hcompile hserved hstart h hpos
  have hlengths : min (p.place start (k + 1) - start) (results.length - start) =
      min l (results.length - start) := by
    have hlength := congrArg List.length heq
    rw [hcollected, wanted, hmax, hskip, Nat.add_zero start, List.length_take, List.length_take,
      List.length_drop] at hlength
    exact hlength
  by_contra hmore
  rcases hlast.exhausted hresponse hshows with hrest | ⟨l', hl', hle⟩
  · rw [hskip] at hrest
    omega
  · obtain rfl := Option.some.inj (hmax.symm.trans hl')
    omega

/-! ### With an offset -/

/-- The entities on the page of a round stand in the results at the places of the round. -/
theorem exists_place {k : Nat} (h : ∀ i < k, p.Continues i) {e : Entity}
    (he : e ∈ (p.entities k).toOption.getD []) :
    ∃ j, results[j]? = some e ∧ p.place start k + p.query.skip ≤ j ∧ j < p.place start (k + 1) := by
  obtain ⟨page, es, _, hentities, hshows⟩ := shows_of_continues hcompile hserved hstart h
  rw [hentities] at he
  obtain ⟨n, hn, rfl⟩ := List.mem_iff_getElem.mp he
  refine ⟨p.place start k + p.query.skip + n, ?_, by omega, ?_⟩
  · rw [← List.getElem?_drop]
    exact List.prefix_iff_getElem?.mp hshows.isPrefix n hn
  · rw [place, size_eq hentities]
    have hlength : n < es.length := hn
    omega

/-- With an offset, the result behind the first page is skipped by the second. -/
theorem no_skip_of_collected (hnodup : results.Nodup) {k : Nat} (hpos : 0 < k)
    (h : ∀ i < k, p.Continues i) (heq : p.collected (k + 1) = p.wanted results start) :
    p.query.skip = 0 := by
  by_contra hskip
  obtain ⟨page, es, hresponse, hentities, hshows⟩ := shows_first hcompile hserved hstart
  obtain ⟨_, hrest, hshort⟩ := (h 0 hpos).remaining hresponse hshows
  have hplace : p.place start (0 + 1) = start + p.query.skip + es.length :=
    congrArg (start + p.query.skip + ·) (size_eq hentities)
  -- the first result that is not on the first page
  obtain ⟨e, he⟩ : ∃ e, results[p.place start (0 + 1)]? = some e :=
    ⟨_, List.getElem?_eq_getElem (by omega)⟩
  have hget : (results.drop (start + p.query.skip))[es.length]? = some e := by
    rw [List.getElem?_drop, ← he, hplace]
  have hwanted : e ∈ p.wanted results start := by
    unfold wanted
    cases hmax : p.query.max? with
    | none => exact List.mem_of_getElem? hget
    | some l =>
      refine List.mem_of_getElem? (i := es.length) ?_
      rw [List.getElem?_take_of_lt (hshort l hmax)]
      exact hget
  rw [← heq] at hwanted
  obtain ⟨i, hi, hmem⟩ := List.mem_flatMap.mp hwanted
  have hik : i < k + 1 := List.mem_range.mp hi
  obtain ⟨j, hj, hfrom, hto⟩ := exists_place hcompile hserved hstart
    (fun n hn => h n (by omega)) hmem
  have hplaces : p.place start (0 + 1) = j := by
    refine (List.getElem?_inj (by omega) hnodup).mp ?_
    rw [hj, he]
  rcases Nat.eq_zero_or_pos i with rfl | hlater
  · omega
  · have hmono : p.place start (0 + 1) ≤ p.place start i := place_mono hlater
    omega

/-! ### All rounds -/

/-- What the rounds up to one have collected, whatever the offset. -/
theorem collected_eq_flatMap {k : Nat} (h : ∀ i < k, p.Continues i) :
    p.collected (k + 1) = (List.range (k + 1)).flatMap fun i =>
      (results.drop (p.place start i + p.query.skip)).take (p.size i) := by
  refine List.flatMap_congr ?_
  intro i hi
  have hik : i < k + 1 := List.mem_range.mp hi
  obtain ⟨page, es, _, hentities, hshows⟩ :=
    shows_of_continues hcompile hserved hstart fun j (hj : j < i) => h j (by omega)
  rw [size_eq hentities, hentities]
  exact List.prefix_iff_eq_take.mp hshows.isPrefix

/-- One page that finishes the query shows what is wanted. -/
theorem collected_of_one (hlast : p.Finishes 0) : p.collected (0 + 1) = p.wanted results start := by
  obtain ⟨page, es, hresponse, hentities, hshows⟩ := shows_first hcompile hserved hstart
  have hes : es = (results.drop (start + p.query.skip)).take es.length :=
    List.prefix_iff_eq_take.mp hshows.isPrefix
  have hcollected : p.collected (0 + 1) = es := by
    rw [p.collected_succ 0 hentities]
    rfl
  have hrest : results.length ≤ start + p.query.skip + es.length ∨
      ∃ l, p.query.max? = some l ∧ l ≤ es.length := hlast.exhausted hresponse hshows
  have hall : results.length ≤ start + p.query.skip + es.length →
      es = results.drop (start + p.query.skip) := by
    intro hle
    rw [hes]
    refine List.take_of_length_le ?_
    rw [List.length_drop]
    omega
  rw [hcollected, wanted]
  cases hmax : p.query.max? with
  | none =>
    rcases hrest with hle | ⟨l, hl, _⟩
    · exact hall hle
    · rw [hmax] at hl
      cases hl
  | some l =>
    have hatMost := hshows.atMost l hmax
    rcases hrest with hle | ⟨l', hl', hle⟩
    · show es = (results.drop (start + p.query.skip)).take l
      rw [← hall hle]
      exact (List.take_of_length_le hatMost).symm
    · obtain rfl := Option.some.inj (hmax.symm.trans hl')
      rw [Nat.le_antisymm hle hatMost]
      exact hes

end Served

end Paging

/-- **When pages change nothing.** A service holds a fixed list of results and cuts it into pages as
it likes. A query that is finished in the round `k` returns the pages one after the other, each of
them behind the offset. That is what the query asks for if one page is enough, or if it has no
offset and no limit that is smaller than the number of results; where no result occurs twice, it is
so in no other case. A query that no page finishes uses up all rounds. -/
theorem runQuery_batches (p : Paging σ) {position : Bytes → Option Nat} {results : List Entity}
    {start : Nat} (hcompile : p.query.compile p.client.projectId = .ok p.compiled)
    (hserved : p.IsServed position results)
    (hstart : position p.compiled.startCursor = some start) :
    (∀ k < p.limit, (∀ i < k, p.Continues i) → p.Finishes k →
      p.run.1 = .ok ((List.range (k + 1)).flatMap fun i =>
        (results.drop (p.place start i + p.query.skip)).take (p.size i)) ∧
      ((k = 0 ∨ p.query.skip = 0 ∧ ∀ l, p.query.max? = some l → results.length ≤ start + l) →
        p.run.1 = .ok (p.wanted results start)) ∧
      (results.Nodup → p.run.1 = .ok (p.wanted results start) →
        k = 0 ∨ p.query.skip = 0 ∧ ∀ l, p.query.max? = some l → results.length ≤ start + l)) ∧
    ((∃ k < p.limit, (∀ i < k, p.Continues i) ∧ p.Finishes k) ∨
      p.run.1 = .error (p.client.queryUnfinished p.query)) := by
  refine ⟨?_, Paging.finishes_or_unfinished hcompile hserved hstart⟩
  intro k hk hbefore hlast
  have hrun : p.run.1 = .ok (p.collected (k + 1)) := by
    rw [Paging.run_of_finishes hcompile hk hbefore hlast]
  refine ⟨?_, ?_, ?_⟩
  · rw [hrun, Paging.collected_eq_flatMap hcompile hserved hstart hbefore]
  · rintro (rfl | ⟨hskip, henough⟩)
    · rw [hrun, Paging.collected_of_one hcompile hserved hstart hlast]
    · rw [hrun, Paging.collected_of_enough hcompile hserved hstart hskip henough hbefore hlast]
  · intro hnodup hwanted
    have heq := Except.ok.inj (hrun.symm.trans hwanted)
    rcases Nat.eq_zero_or_pos k with hzero | hpos
    · exact Or.inl hzero
    · have hskip := Paging.no_skip_of_collected hcompile hserved hstart hnodup hpos hbefore heq
      exact Or.inr ⟨hskip, fun l hmax =>
        Paging.enough_of_collected hcompile hserved hstart hskip hpos hbefore hlast hmax heq⟩

/-! ### Pages of one size -/

/-- The place where a cursor of a service with pages of one size stands. -/
def Service.pagedPosition (cursor : Bytes) : Option Nat := some cursor.length

/-- A page of one size shows what follows the cursor and the offset of its request. -/
theorem shows_page {stored : List Wire.Entity} {results : List Entity} {size : Nat}
    (hsize : 0 < size) (hread : stored.mapM Wire.Entity.decode = .ok results) (q : Wire.Query) :
    ∃ es, (q.page stored size).Shows Service.pagedPosition results
      (q.startCursor.length + q.skipped) q.most? es := by
  have hstored := mapM_eq_ok_iff.mp hread
  have hlength := hstored.length_eq
  have hslice := List.forall₂_take (min size (q.most?.getD size))
    (List.forall₂_drop (q.startCursor.length + q.skipped) hstored)
  have hsame := hslice.length_eq
  have hes : ((results.drop (q.startCursor.length + q.skipped)).take
      (min size (q.most?.getD size))).length =
      min (min size (q.most?.getD size)) (results.length - (q.startCursor.length + q.skipped)) := by
    rw [List.length_take, List.length_drop]
  refine ⟨(results.drop (q.startCursor.length + q.skipped)).take (min size (q.most?.getD size)),
    mapM_eq_ok_iff.mpr hslice, List.take_prefix _ _, ?_, ?_, ?_, ?_, ?_⟩
  · intro hfirst hmost
    refine List.length_pos_iff.mp ?_
    rw [hes]
    cases hq : q.most? with
    | none =>
      rw [Option.getD_none]
      omega
    | some l =>
      have hl : l ≠ 0 := fun hzero => hmost (hq.trans (congrArg some hzero))
      rw [Option.getD_some]
      omega
  · intro l hl
    rw [hes, hl, Option.getD_some]
    omega
  · intro _
    show some (List.replicate _ _).length = _
    rw [List.length_replicate, hsame]
  · show Client.isKnownProgress (if _ then Client.unfinished else 3) = true
    split <;> decide
  · have hprogress : (q.page stored size).progress = Client.unfinished ↔
        q.startCursor.length + q.skipped + (q.page stored size).results.length < stored.length ∧
          q.most? ≠ some (q.page stored size).results.length := by
      simp [Wire.Query.page, Client.unfinished]
    have hresults : (q.page stored size).results.length =
        ((results.drop (q.startCursor.length + q.skipped)).take
          (min size (q.most?.getD size))).length := hsame
    rw [hprogress, hresults, hlength]
    refine and_congr_right fun _ => ?_
    constructor
    · intro hne l hl
      refine Nat.lt_of_le_of_ne ?_ fun heq => hne (hl.trans (congrArg some heq.symm))
      rw [hes, hl, Option.getD_some]
      omega
    · intro hlt heq
      exact Nat.lt_irrefl _ (hlt _ heq)

/-- A service with pages of one size holds a fixed list of results. -/
theorem isServed_paged {p : Paging Unit} {stored : List Wire.Entity} {results : List Entity}
    {size : Nat} (hservice : p.service = .paged stored size) (hsize : 0 < size)
    (hread : stored.mapM Wire.Entity.decode = .ok results) (hstub : p.start.hasStub = true) :
    p.IsServed Service.pagedPosition results := by
  refine ⟨hstub, fun w => ⟨"owner", w, by rw [hservice]; rfl⟩, ?_⟩
  intro cursor s w hs
  obtain rfl := Option.some.inj hs
  obtain ⟨es, hshows⟩ := shows_page hsize hread (p.request cursor).query
  refine ⟨(p.request cursor).query.page stored size, es, w, ?_, hshows⟩
  rw [hservice]
  rfl

theorem isServed_tasks (names : List String) (skip : Nat) (max? : Option Nat) :
    (tasks names skip max?).IsServed Service.pagedPosition (names.map task) := by
  refine isServed_paged rfl Nat.one_pos (mapM_eq_ok_iff.mpr ?_) rfl
  rw [List.forall₂_map_left_iff, List.forall₂_map_right_iff, List.forall₂_same]
  intro name _
  rfl

/-- Three pages with a task each, without an offset. -/
theorem runQuery_batches_tasks :
    (tasks ["a", "b", "c"] 0 none).run.1 = .ok [task "a", task "b", task "c"] := by
  have hbatches := runQuery_batches (tasks ["a", "b", "c"] 0 none) rfl
    (isServed_tasks ["a", "b", "c"] 0 none) rfl
  refine (hbatches.1 2 (by decide) ?_ ?_).2.1 (Or.inr ⟨rfl, nofun⟩)
  · intro i hi
    rcases (show i = 0 ∨ i = 1 by omega) with rfl | rfl
    · exact ⟨_, _, rfl, rfl, rfl, by decide⟩
    · exact ⟨_, _, rfl, rfl, rfl, by decide⟩
  · exact ⟨_, _, rfl, rfl, rfl, by decide⟩

/-- Where the results of a query with an offset come in more than one page, they need not be what
the query asks for: of four tasks the first is to be skipped, and the third is skipped as well. -/
theorem not_run_eq_wanted :
    ¬ ∀ (p : Paging Unit) (position : Bytes → Option Nat) (results : List Entity),
      position [] = some 0 → p.compiled.startCursor = [] →
      p.query.compile p.client.projectId = .ok p.compiled → p.IsServed position results →
      (∃ k < p.limit, (∀ i < k, p.Continues i) ∧ p.Finishes k) →
      p.run.1 = .ok (p.wanted results 0) := by
  intro hall
  have hwanted := hall (tasks ["a", "b", "c", "d"] 1 none) Service.pagedPosition
    (["a", "b", "c", "d"].map task) rfl rfl rfl (isServed_tasks ["a", "b", "c", "d"] 1 none) (by
      refine ⟨1, by decide, ?_, ⟨_, _, rfl, rfl, rfl, by decide⟩⟩
      intro i hi
      obtain rfl : i = 0 := by omega
      exact ⟨_, _, rfl, rfl, rfl, by decide⟩)
  have hrun : (tasks ["a", "b", "c", "d"] 1 none).run.1 = .ok [task "b", task "d"] := rfl
  have hlengths := congrArg List.length (Except.ok.inj (hrun.symm.trans hwanted))
  exact absurd hlengths (by decide)

end EntityStore
