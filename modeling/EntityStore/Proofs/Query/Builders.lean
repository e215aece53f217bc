import EntityStore.Client
import EntityStore.Proofs.Native
import EntityStore.Proofs.Outcome
import Mathlib.Data.List.Induction

/-!
# Chains of builders

A query is made by a chain of calls. What the query says can be read off the chain: conditions and
orderings in the order of their calls, the last argument of every other call, and whether a call
occurs at all.

* `Query.Builder`, `Query.build` — the calls, and what a chain of them makes of a query;
* `Query.after` — a query with what a chain says;
* `Query.build_eq` — a chain whose arguments are accepted makes this query;
* `Query.Agree`, `Query.after_eq_of_agree` — chains that say the same;
* `Derivation`, `Derivation.run_map` — calls on any of the queries that have been made so far, each
  of which says what its own chain says;
* `builders_commute` — chains that say the same make the same query, and no call changes a query.
-/

namespace EntityStore

namespace Query

/-! ### Calls -/

/-- A call of a builder. -/
inductive Builder
  | eventuallyConsistent
  | keysOnly
  | offset (n : Int)
  | limit (n : Int)
  | ancestor (k : Key)
  | inNamespace (ns : String)
  | project (properties : List String)
  | distinctOn (properties : List String)
  | filter (f : Filter)
  | order (o : Order)
  | cursor (c : Bytes)

namespace Builder

/-- What a call makes of a query. -/
def apply (q : Query) : Builder → Outcome Query
  | eventuallyConsistent => .ok q.eventuallyConsistent
  | keysOnly => .ok q.keysOnly
  | offset n => q.offset n
  | limit n => q.limit n
  | ancestor k => .ok (q.ancestor k)
  | inNamespace ns => .ok (q.inNamespace ns)
  | project properties => .ok (q.project properties)
  | distinctOn properties => .ok (q.distinctOn properties)
  | filter f => .ok (q.filter f)
  | order o => .ok (q.order o)
  | cursor c => .ok (q.cursor c)

/-- Why the argument of a call is refused, if it is: no number of results is negative. -/
def refusal? : Builder → Option ValueFault
  | offset n => if n < 0 then some (.negativeOffset n) else none
  | limit n => if n < 0 then some (.negativeLimit n) else none
  | _ => none

/-- The condition that a call adds. An ancestor is one. -/
@[simp] def condition? : Builder → Option Filter
  | ancestor k => some (.hasAncestor k)
  | filter f => some f
  | _ => none

/-- The ordering that a call adds. -/
@[simp] def ordering? : Builder → Option Order
  | order o => some o
  | _ => none

/-- The number of results that a call skips. -/
@[simp] def offset? : Builder → Option Int
  | offset n => some n
  | _ => none

/-- The number of results that a call allows. -/
@[simp] def limit? : Builder → Option Int
  | limit n => some n
  | _ => none

/-- The namespace that a call asks for. -/
@[simp] def namespace? : Builder → Option String
  | inNamespace ns => some ns
  | _ => none

/-- The properties that a call projects. -/
@[simp] def projection? : Builder → Option (List String)
  | project properties => some properties
  | _ => none

/-- The properties in which a call wants distinct results. -/
@[simp] def distinct? : Builder → Option (List String)
  | distinctOn properties => some properties
  | _ => none

/-- The cursor that a call starts from. -/
@[simp] def cursor? : Builder → Option Bytes
  | cursor c => some c
  | _ => none

/-- Whether a call asks for keys alone. -/
@[simp] def isKeysOnly : Builder → Bool
  | keysOnly => true
  | _ => false

/-- Whether a call allows for results that are slightly out of date. -/
@[simp] def isEventual : Builder → Bool
  | eventuallyConsistent => true
  | _ => false

/-- A call is answered unless its argument is refused. -/
theorem apply_of_refused {b : Builder} {fault : ValueFault} (h : b.refusal? = some fault)
    (q : Query) : b.apply q = .error (.value fault) := by
  cases b with
  | offset n | limit n =>
    rw [refusal?] at h
    split at h
    · rename_i hn
      obtain rfl := Option.some.inj h
      exact if_pos hn
    · cases h
  | _ => cases h

end Builder

/-! ### Chains of calls -/

/-- What a chain of calls makes of a query. The chain ends with the first call whose argument is
refused. -/
def build (q : Query) (calls : List Builder) : Outcome Query :=
  calls.foldlM Builder.apply q

/-- The query for a kind, made by a chain of calls. -/
def ofCalls (kind : String) (calls : List Builder) : Outcome Query :=
  (make kind).bind (build · calls)

/-- The last of what the calls of a chain say. -/
def last? {α : Type} (said? : Builder → Option α) (calls : List Builder) : Option α :=
  (calls.filterMap said?).getLast?

theorem last?_snoc {α : Type} (said? : Builder → Option α) (calls : List Builder) (b : Builder) :
    last? said? (calls ++ [b]) = (said? b).or (last? said? calls) := by
  rw [last?, List.filterMap_append]
  cases hb : said? b with
  | none => simp [hb, last?]
  | some a => simp [hb]

/-- A query with what a chain of calls says. -/
def after (q : Query) (calls : List Builder) : Query where
  kind := q.kind
  isEventual := q.isEventual || calls.any (·.isEventual)
  isKeysOnly := q.isKeysOnly || calls.any (·.isKeysOnly)
  skip := ((last? (·.offset?) calls).map Int.toNat).getD q.skip
  max? := ((last? (·.limit?) calls).map Int.toNat).or q.max?
  partition := match last? (·.namespace?) calls with
    | some ns => normalizeNamespace (some ns)
    | none => q.partition
  projections := (last? (·.projection?) calls).getD q.projections
  distinct := (last? (·.distinct?) calls).getD q.distinct
  ordering := q.ordering ++ calls.filterMap (·.ordering?)
  filters := q.filters ++ calls.filterMap (·.condition?)
  cursor? := (last? (·.cursor?) calls).or q.cursor?

@[simp] theorem after_nil (q : Query) : q.after [] = q := by
  simp [after, last?]

/-- **One more call says what it says, and nothing else.** -/
theorem apply_after {b : Builder} (h : b.refusal? = none) (q : Query) (calls : List Builder) :
    b.apply (q.after calls) = .ok (q.after (calls ++ [b])) := by
  cases b with
  | offset n | limit n =>
    have hn : ¬ n < 0 := by simpa [Builder.refusal?] using h
    simp [Builder.apply, offset, limit, hn, after, last?_snoc]
  | eventuallyConsistent | keysOnly | ancestor | inNamespace | project | distinctOn | filter | order
  | cursor =>
    simp [Builder.apply, eventuallyConsistent, keysOnly, ancestor, filter, inNamespace, project,
      distinctOn, order, cursor, after, last?_snoc]

/-- **What a query says can be read off its chain.** The induction is on the chain, by its last
call. -/
theorem build_eq (q : Query) {calls : List Builder} (h : ∀ b ∈ calls, b.refusal? = none) :
    q.build calls = .ok (q.after calls) := by
  induction calls using List.reverseRecOn with
  | nil =>
    rw [after_nil]
    rfl
  | append_singleton calls b ih =>
    obtain ⟨hcalls, hb⟩ := List.forall_mem_append.mp h
    have hbefore : calls.foldlM Builder.apply q = .ok (q.after calls) := ih hcalls
    rw [build, List.foldlM_append, hbefore]
    show ([b].foldlM Builder.apply (q.after calls)) = _
    rw [List.foldlM_cons, apply_after (hb b List.mem_cons_self)]
    rfl

/-- A chain makes a query only if no argument is refused. -/
theorem accepted_of_build {calls : List Builder} :
    ∀ {q r : Query}, q.build calls = .ok r → ∀ b ∈ calls, b.refusal? = none := by
  induction calls with
  | nil => exact fun _ => nofun
  | cons b rest ih =>
    intro q r h
    rw [build, List.foldlM_cons] at h
    obtain ⟨next, hnext, hrest⟩ := bind_eq_ok h
    have hb : b.refusal? = none := by
      refine Option.eq_none_iff_forall_ne_some.mpr fun fault hfault => ?_
      rw [Builder.apply_of_refused hfault] at hnext
      cases hnext
    exact List.forall_mem_cons.mpr ⟨hb, ih hrest⟩

/-! ### Chains that say the same -/

/-- Two chains add the same conditions and the same orderings in the same order, have the same last
argument in every other call, and have the same calls without an argument. -/
structure Agree (xs ys : List Builder) : Prop where
  conditions : xs.filterMap (·.condition?) = ys.filterMap (·.condition?)
  orderings : xs.filterMap (·.ordering?) = ys.filterMap (·.ordering?)
  offset : last? (·.offset?) xs = last? (·.offset?) ys
  limit : last? (·.limit?) xs = last? (·.limit?) ys
  inNamespace : last? (·.namespace?) xs = last? (·.namespace?) ys
  project : last? (·.projection?) xs = last? (·.projection?) ys
  distinctOn : last? (·.distinct?) xs = last? (·.distinct?) ys
  cursor : last? (·.cursor?) xs = last? (·.cursor?) ys
  keysOnly : xs.any (·.isKeysOnly) = ys.any (·.isKeysOnly)
  eventuallyConsistent : xs.any (·.isEventual) = ys.any (·.isEventual)

theorem after_eq_of_agree {xs ys : List Builder} (h : Agree xs ys) (q : Query) :
    q.after xs = q.after ys := by
  rw [after, after, h.conditions, h.orderings, h.offset, h.limit, h.inNamespace, h.project,
    h.distinctOn, h.cursor, h.keysOnly, h.eventuallyConsistent]

theorem isEqv_self {α : Type} {r : α → α → Bool} {as : List α} (h : ∀ a ∈ as, r a a = true) :
    as.isEqv as r = true := by
  induction as with
  | nil => rfl
  | cons a rest ih =>
    rw [List.isEqv, h a List.mem_cons_self, ih fun b hb => h b (List.mem_cons_of_mem a hb)]
    rfl

/-- A query equals itself, whichever steps have made its conditions. -/
theorem equalShared_self (q : Query) (h : ∀ f ∈ q.filters, f.value.WellFormed) (made : List Nat) :
    q.equalShared q made made = true := by
  have hagrees : q.agrees q = true := by
    simp [agrees]
  rw [equalShared, hagrees, Bool.true_and]
  refine isEqv_self fun ⟨f, i⟩ hf => ?_
  have hself := f.value.equal_shared_self (h f (List.of_mem_zip hf).1)
  simp [Filter.equal, hself]

end Query

/-! ### Queries made of each other -/

open Query (Builder)

/-- A call of a builder on the query with a number, among all that have been made. -/
structure Derivation where
  on : Nat
  call : Builder

namespace Derivation

/-- The query that the call makes is put behind the others. -/
def apply (d : Derivation) : Action (List Query) Query := fun qs =>
  match qs[d.on]? with
  | none => (.error .missingIndex, qs)
  | some q =>
    match d.call.apply q with
    | .error e => (.error e, qs)
    | .ok r => (.ok r, qs ++ [r])

/-- All queries after some calls. -/
def run (ds : List Derivation) (qs : List Query) : List Query :=
  ds.foldl (fun qs d => (d.apply qs).2) qs

/-- The chains of all queries after one more call. -/
def extend (chains : List (List Builder)) (d : Derivation) : List (List Builder) :=
  match chains[d.on]?, d.call.refusal? with
  | some calls, none => chains ++ [calls ++ [d.call]]
  | _, _ => chains

/-- The chains of all queries after some calls on a first one. -/
def chains (ds : List Derivation) : List (List Builder) :=
  ds.foldl extend [[]]

/-- A call that fails leaves all queries as they are. -/
theorem apply_of_error {d : Derivation} {qs : List Query} {e : Error} :
    (d.apply qs).1 = .error e → (d.apply qs).2 = qs := by
  unfold apply
  cases qs[d.on]? with
  | none => exact fun _ => rfl
  | some q =>
    dsimp only
    cases d.call.apply q with
    | error _ => exact fun _ => rfl
    | ok r => exact nofun

/-- No call changes a query that is there. -/
theorem isPrefix_apply (d : Derivation) (qs : List Query) : qs <+: (d.apply qs).2 := by
  unfold apply
  cases qs[d.on]? with
  | none => exact List.prefix_rfl
  | some q =>
    dsimp only
    cases d.call.apply q with
    | error _ => exact List.prefix_rfl
    | ok r => exact List.prefix_append qs [r]

theorem isPrefix_run (ds : List Derivation) (qs : List Query) : qs <+: run ds qs := by
  induction ds generalizing qs with
  | nil => exact List.prefix_rfl
  | cons d rest ih => exact (d.isPrefix_apply qs).trans (ih _)

/-- One call keeps it so that every query says what its chain says. -/
theorem apply_map (q : Query) (chains : List (List Builder)) (d : Derivation) :
    (d.apply (chains.map q.after)).2 = (extend chains d).map q.after := by
  unfold apply extend
  rw [List.getElem?_map]
  cases chains[d.on]? with
  | none => rfl
  | some calls =>
    cases hrefusal : d.call.refusal? with
    | none => simp [Query.apply_after hrefusal]
    | some fault => simp [Builder.apply_of_refused hrefusal]

/-- **Every query says what its own chain says.** -/
theorem run_map (q : Query) (ds : List Derivation) :
    run ds [q] = (chains ds).map q.after := by
  have hchains : ∀ started : List (List Builder),
      run ds (started.map q.after) = (ds.foldl extend started).map q.after := by
    induction ds with
    | nil => exact fun _ => rfl
    | cons d rest ih =>
      intro started
      rw [run, List.foldl_cons, apply_map]
      exact ih (extend started d)
  have hfirst : [q] = [([] : List Builder)].map q.after := by simp
  rw [hfirst]
  exact hchains [[]]

/-- No chain has a call whose argument is refused. -/
theorem accepted_of_mem_chains (ds : List Derivation) :
    ∀ calls ∈ chains ds, ∀ b ∈ calls, b.refusal? = none := by
  induction ds using List.reverseRecOn with
  | nil =>
    intro calls hcalls
    obtain rfl := List.mem_singleton.mp hcalls
    exact nofun
  | append_singleton ds d ih =>
    rw [chains, List.foldl_append]
    show ∀ calls ∈ extend (chains ds) d, ∀ b ∈ calls, b.refusal? = none
    unfold extend
    split
    · rename_i calls hcalls hd
      refine List.forall_mem_append.mpr ⟨ih, List.forall_mem_singleton.mpr ?_⟩
      exact List.forall_mem_append.mpr
        ⟨ih calls (List.mem_of_getElem? hcalls), List.forall_mem_singleton.mpr hd⟩
    · exact ih

end Derivation

/-- **Builders commute.** Two chains whose arguments are accepted and that say the same make equal
queries of every kind, and these send the same requests, whoever runs them. A call whose argument is
refused fails with the refusal. Whatever calls are made on any of the queries that there are, a call
that fails leaves all of them as they are, each query is the one that its own chain makes, and it
stays so however it and the others are extended. -/
theorem builders_commute :
    (∀ kind ≠ "", ∀ xs ys : List Builder,
      (∀ b ∈ xs, b.refusal? = none) → (∀ b ∈ ys, b.refusal? = none) → Query.Agree xs ys →
      ∃ q r, Query.ofCalls kind xs = .ok q ∧ Query.ofCalls kind ys = .ok r ∧ q = r ∧
        ((∀ f ∈ q.filters, f.value.WellFormed) → ∀ made, q.equalShared r made made = true) ∧
        ∀ {σ : Type} (c : Client) (v : Service σ) (transaction : Option Bytes) (s : Session σ),
          c.runQuery v transaction q s = c.runQuery v transaction r s) ∧
    (∀ (b : Builder) (fault : ValueFault), b.refusal? = some fault →
      ∀ q, b.apply q = .error (.value fault)) ∧
    (∀ (d : Derivation) (qs : List Query) (e : Error),
      (d.apply qs).1 = .error e → (d.apply qs).2 = qs) ∧
    ∀ (q : Query) (ds : List Derivation),
      (∀ calls ∈ Derivation.chains ds, q.build calls = .ok (q.after calls)) ∧
      Derivation.run ds [q] = (Derivation.chains ds).map q.after ∧
      ∀ more, Derivation.run ds [q] <+: Derivation.run (ds ++ more) [q] := by
  refine ⟨?_, fun b _ => Builder.apply_of_refused, fun d _ _ => Derivation.apply_of_error, ?_⟩
  · intro kind hkind xs ys hxs hys hagree
    obtain ⟨q, hq⟩ : ∃ q, Query.make kind = .ok q := ⟨_, if_neg (by simpa using hkind)⟩
    have hmade {calls : List Builder} (h : ∀ b ∈ calls, b.refusal? = none) :
        Query.ofCalls kind calls = .ok (q.after calls) := by
      rw [Query.ofCalls, hq]
      exact q.build_eq h
    have hsame := Query.after_eq_of_agree hagree q
    refine ⟨q.after xs, q.after ys, hmade hxs, hmade hys, hsame, ?_, ?_⟩
    · rw [← hsame]
      exact (q.after xs).equalShared_self
    · intro σ c v transaction s
      rw [hsame]
  · intro q ds
    refine ⟨fun calls hcalls => q.build_eq (Derivation.accepted_of_mem_chains ds calls hcalls),
      Derivation.run_map q ds, fun more => ?_⟩
    rw [Derivation.run, Derivation.run, List.foldl_append]
    exact Derivation.isPrefix_run more _

/-- The condition that a task is open. -/
def openTask : Filter :=
  ⟨"done", .equal, .boolean false⟩

/-- Calls for the keys of the first two open tasks, with a limit that is replaced. -/
def firstTasks : List Builder :=
  [.limit 5, .filter openTask, .order ⟨"due", .ascending⟩, .keysOnly, .limit 2]

/-- The same in another order. -/
def tasksFirst : List Builder :=
  [.keysOnly, .limit 2, .order ⟨"due", .ascending⟩, .keysOnly, .filter openTask]

/-- Both chains make the same query, and a negative limit would be refused. -/
theorem builders_commute_tasks :
    (∃ q, Query.ofCalls "Task" firstTasks = .ok q ∧ Query.ofCalls "Task" tasksFirst = .ok q) ∧
    ∀ q, (Builder.limit (-1)).apply q = .error (.value (.negativeLimit (-1))) := by
  obtain ⟨hcommute, hrefused, -⟩ := builders_commute
  have hagree : Query.Agree firstTasks tasksFirst := by
    constructor <;> rfl
  obtain ⟨q, r, hq, hr, rfl, -⟩ := hcommute "Task" (by decide) firstTasks tasksFirst
    (by simp [firstTasks, Builder.refusal?]) (by simp [tasksFirst, Builder.refusal?]) hagree
  exact ⟨⟨q, hq, hr⟩, hrefused _ _ rfl⟩

end EntityStore
