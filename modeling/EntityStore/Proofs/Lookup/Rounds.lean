import EntityStore.Client
import EntityStore.Proofs.Key
import EntityStore.Proofs.Transport
import Mathlib.Data.Nat.Find

/-!
# Lookups round by round

A lookup asks for keys, and asks again for those that the service defers. The entities of all rounds
are collected under their keys, and in the end each key of the request takes its own.

* `Client.entityFor` — the entity that is collected under a key;
* `Client.entityFor_foldl_collect` — the entity that is reported last counts;
* `Client.inOrder_eq` — each key takes its entity once, at its first place;
* `Fetch` — a lookup on its way, with `pending`, `session` and `response` of each round;
* `Fetch.run_of_done` — a lookup that has no key left to ask for.
-/

namespace EntityStore

variable {σ : Type}

/-! ### Entities under their keys -/

namespace Client

/-- The entity that is collected under a key. -/
def entityFor (found : List (Key × Entity)) (k : Key) : Option Entity :=
  (found.find? (·.1.same k)).map Prod.snd

theorem entityFor_unmarked (found : List (Key × Entity)) (k : Key) :
    entityFor found k.unmarked = entityFor found k := by
  simp only [entityFor, Key.same_eq_decide, Key.unmarked_unmarked]

theorem entityFor_collect (e : Entity) (found : List (Key × Entity)) (k : Key) :
    entityFor (collect e found) k = if e.key.same k then some e else entityFor found k := by
  induction found with
  | nil =>
    cases h : e.key.same k <;> simp [collect, entityFor, h]
  | cons f rest ih =>
    obtain ⟨l, old⟩ := f
    simp only [entityFor, Key.same_eq_decide] at ih ⊢
    by_cases hreplaced : l.unmarked = e.key.unmarked
    · by_cases hk : e.key.unmarked = k.unmarked
      · simp [collect, Key.same_eq_decide, hreplaced, hk]
      · simp [collect, Key.same_eq_decide, hreplaced, hk]
    · by_cases hl : l.unmarked = k.unmarked
      · have hk : ¬ e.key.unmarked = k.unmarked := fun heq => hreplaced (hl.trans heq.symm)
        simp [collect, Key.same_eq_decide, hl, hk, Ne.symm hk]
      · simp [collect, Key.same_eq_decide, hreplaced, hl, ih]

/-- Of all entities with a key, the one that is reported last is collected. -/
theorem entityFor_foldl_collect (es : List Entity) (k : Key) :
    ∀ found, entityFor (es.foldl (fun f e => collect e f) found) k =
      (es.reverse.find? (·.key.same k)).or (entityFor found k) := by
  induction es with
  | nil => intro found; rfl
  | cons e es ih =>
    intro found
    rw [List.foldl_cons, ih, entityFor_collect, List.reverse_cons, List.find?_append,
      Option.or_assoc]
    congr 1
    cases h : e.key.same k <;> simp [h]

/-! ### The order of the request -/

/-- To take a key out of the collection is to take it out of the request. -/
theorem inOrder_filter (k : Key) (keys : List Key) :
    ∀ found, inOrder keys (found.filter fun f => !f.1.same k) =
      inOrder (keys.filter fun l => !k.same l) found := by
  induction keys with
  | nil => intro found; rfl
  | cons l keys ih =>
    intro found
    by_cases hkl : k.same l = true
    · have hnone : (found.filter fun f => !f.1.same k).find? (·.1.same l) = none := by
        rw [List.find?_eq_none]
        intro f hf
        have hne : ¬ f.1.unmarked = k.unmarked := by
          simpa [Key.same_eq_decide] using (List.mem_filter.mp hf).2
        rw [Key.same_iff, ← (Key.same_iff k l).mp hkl]
        exact hne
      rw [List.filter_cons_of_neg (by simp [hkl]), inOrder, hnone]
      exact ih found
    · have hfind : (found.filter fun f => !f.1.same k).find? (·.1.same l) =
          found.find? (·.1.same l) := by
        rw [List.find?_filter]
        congr 1
        funext f
        simp only [Key.same_eq_decide, decide_eq_true_eq] at hkl ⊢
        by_cases hf : f.1.unmarked = l.unmarked
        · simp [hf, Ne.symm hkl]
        · simp [hf]
      rw [List.filter_cons_of_pos (by simpa using hkl), inOrder, inOrder, hfind]
      cases found.find? (·.1.same l) with
      | none => exact ih found
      | some f =>
        show f.2 :: _ = f.2 :: _
        rw [List.filter_filter, ← ih, List.filter_filter]
        simp only [Bool.and_comm]

theorem inOrder_cons (k : Key) (keys : List Key) (found : List (Key × Entity)) :
    inOrder (k :: keys) found =
      (entityFor found k).toList ++ inOrder (keys.filter fun l => !k.same l) found := by
  rw [inOrder, entityFor, ← inOrder_filter]
  cases hfind : found.find? (·.1.same k) with
  | none =>
    have hall : found.filter (fun f => !f.1.same k) = found := by
      refine List.filter_eq_self.mpr ?_
      intro f hf
      simpa using List.find?_eq_none.mp hfind f hf
    rw [hall]
    rfl
  | some f => rfl

/-- **The order of the request.** Each key takes its entity once, at its first place. The induction
is on the number of keys, because a key takes all its repetitions with it. -/
theorem inOrder_eq (keys : List Key) (found : List (Key × Entity)) :
    inOrder keys found = (keys.map Key.unmarked).eraseDups.filterMap (entityFor found) := by
  induction hn : keys.length using Nat.strong_induction_on generalizing keys with
  | _ n ih =>
    cases keys with
    | nil => rfl
    | cons k keys =>
      have hfilter : (keys.map Key.unmarked).filter (fun l => !l == k.unmarked) =
          (keys.filter fun l => !k.same l).map Key.unmarked := by
        rw [List.filter_map]
        congr 2
        funext l
        simp [Key.same_eq_decide, eq_comm, BEq.beq]
      have hshorter : (keys.filter fun l => !k.same l).length < n := by
        have hle := List.length_filter_le (fun l => !k.same l) keys
        rw [List.length_cons] at hn
        omega
      rw [inOrder_cons, ih _ hshorter _ rfl, List.map_cons, List.eraseDups_cons, hfilter,
        List.filterMap_cons, entityFor_unmarked]
      cases entityFor found k <;> rfl

end Client

/-! ### Rounds -/

/-- A lookup on its way: who asks whom, in a transaction or not, for which keys, and the session at
the start. -/
structure Fetch (σ : Type) where
  client : Client
  service : Service σ
  transaction : Option Bytes
  keys : List Key
  start : Session σ

namespace Fetch

variable (f : Fetch σ)

/-- The largest number of rounds. -/
def limit : Nat := f.client.config.maxRounds

/-- The call for keys. -/
def call (asked : List Wire.Key) : Action (Session σ) Wire.LookupResponse :=
  Transport.call f.service .lookup (f.client.lookupRequest f.transaction asked)

/-- The keys to ask for and the session before each round, if there was no limit: the next round
asks for the keys that are deferred, and for the same keys after a failure. -/
def before : Nat → List Wire.Key × Session σ
  | 0 => (f.keys.map (·.encode f.client.projectId), f.start)
  | i + 1 =>
    match f.call (before i).1 (before i).2 with
    | (.ok response, s) => (response.deferred, s)
    | (.error _, s) => ((before i).1, s)

/-- The keys that a round asks for. -/
def pending (i : Nat) : List Wire.Key := (f.before i).1

/-- The session before a round. -/
def session (i : Nat) : Session σ := (f.before i).2

/-- What comes of the call in a round. -/
def response (i : Nat) : Outcome Wire.LookupResponse := (f.call (f.pending i) (f.session i)).1

/-- The entities that a round reports. -/
def entities (i : Nat) : Outcome (List Entity) :=
  (f.response i).bind fun r => r.found.mapM Wire.Entity.decode

/-- The entities that the first rounds report. -/
def reported (k : Nat) : List Entity :=
  (List.range k).flatMap fun i => (f.entities i).toOption.getD []

/-- The entities of the first rounds under their keys. -/
def found (k : Nat) : List (Key × Entity) :=
  (f.reported k).foldl (fun found e => Client.collect e found) []

/-- A round whose answer arrives, with entities that are all read. -/
def Answered (i : Nat) : Prop :=
  ∃ r es, f.response i = .ok r ∧ r.found.mapM Wire.Entity.decode = .ok es

theorem session_succ (i : Nat) :
    f.session (i + 1) = (f.call (f.pending i) (f.session i)).2 := by
  show (match f.call (f.pending i) (f.session i) with
    | (.ok r, s) => (r.deferred, s)
    | (.error _, s) => (f.pending i, s)).2 = _
  cases f.call (f.pending i) (f.session i) with
  | mk r s => cases r <;> rfl

theorem call_eq (i : Nat) :
    f.call (f.pending i) (f.session i) = (f.response i, f.session (i + 1)) := by
  rw [session_succ]
  rfl

theorem pending_succ {i : Nat} {r : Wire.LookupResponse} (h : f.response i = .ok r) :
    f.pending (i + 1) = r.deferred := by
  show (match f.call (f.pending i) (f.session i) with
    | (.ok r, s) => (r.deferred, s)
    | (.error _, s) => (f.pending i, s)).1 = _
  rw [call_eq, h]

theorem entities_eq {i : Nat} {r : Wire.LookupResponse} {es : List Entity}
    (hresponse : f.response i = .ok r) (hread : r.found.mapM Wire.Entity.decode = .ok es) :
    f.entities i = .ok es := by
  rw [entities, hresponse]
  exact hread

theorem reported_succ (k : Nat) {es : List Entity} (h : f.entities k = .ok es) :
    f.reported (k + 1) = f.reported k ++ es := by
  rw [reported, List.range_succ, List.flatMap_append, List.flatMap_singleton, h]
  rfl

theorem entityFor_found (k : Nat) (key : Key) :
    Client.entityFor (f.found k) key = (f.reported k).reverse.find? (·.key.same key) := by
  rw [found, Client.entityFor_foldl_collect]
  exact Option.or_none

/-! ### Steps of the loop -/

/-- What is collected from a round on, in at most `rounds` rounds. -/
def rest (rounds i : Nat) : Outcome (List (Key × Entity)) × Session σ :=
  f.client.lookupRounds f.service f.transaction rounds (f.pending i) (f.found i) (f.session i)

theorem rest_of_done {rounds i : Nat} (h : f.pending i = []) :
    f.rest rounds i = (.ok (f.found i), f.session i) := by
  rw [rest, h]
  cases rounds <;> rfl

/-- A round that is answered hands on its deferred keys, and adds its entities. -/
theorem rest_of_answered {rounds i : Nat} (hleft : f.pending i ≠ []) (h : f.Answered i) :
    f.rest (rounds + 1) i = f.rest rounds (i + 1) := by
  obtain ⟨r, es, hresponse, hread⟩ := h
  have hcall := f.call_eq i
  rw [hresponse] at hcall
  have hfound : es.foldl (fun found e => Client.collect e found) (f.found i) = f.found (i + 1) := by
    rw [found, found, f.reported_succ i (f.entities_eq hresponse hread), List.foldl_append]
  rw [rest, rest, f.pending_succ hresponse, ← hfound]
  cases hpending : f.pending i with
  | nil => exact absurd hpending hleft
  | cons key keys =>
    rw [hpending] at hcall
    exact (Action.bind_of_ok _ hcall).trans (Action.ofOutcome_bind_of_ok _ _ hread)

/-! ### The whole lookup -/

/-- The lookup, from the session at the start. -/
def run : Outcome (List Entity) × Session σ :=
  f.client.lookup f.service f.transaction (f.keys.map .key) f.start

theorem run_eq :
    f.run = ((f.rest f.limit 0).1.map (Client.inOrder f.keys), (f.rest f.limit 0).2) := by
  refine (Action.ofOutcome_bind_of_ok _ _ (KeyInput.mapM_check_eq_ok_iff.mpr rfl)).trans ?_
  cases hrest : f.rest f.limit 0 with
  | mk r s =>
    cases r with
    | error e => exact Action.bind_of_error _ hrest
    | ok found => exact Action.bind_of_ok _ hrest

/-- What an application gets of the lookup: entities as they are, or objects of a type. -/
theorem getAll_eq (s : Schema) (into : Option Target) :
    f.client.getAll f.service s f.transaction (f.keys.map .key) into f.start =
      (f.run.1.bind fun es => es.mapM (Client.present s into), f.run.2) :=
  Action.bind_ofOutcome_apply _ _ _

variable {f}

/-- Rounds that are answered and leave keys over can be skipped. -/
theorem rest_skip {k : Nat} (hk : k ≤ f.limit) (h : ∀ i < k, f.pending i ≠ [] ∧ f.Answered i) :
    f.rest f.limit 0 = f.rest (f.limit - k) k := by
  induction k with
  | zero => rfl
  | succ k ih =>
    obtain ⟨hleft, hanswered⟩ := h k (Nat.lt_succ_self k)
    rw [ih (by omega) fun i hi => h i (by omega), show f.limit - k = f.limit - (k + 1) + 1 by omega,
      f.rest_of_answered hleft hanswered]

/-- **A lookup that has no key left to ask for**, after rounds that had keys and are answered. -/
theorem run_of_done {k : Nat} (hk : k ≤ f.limit) (h : ∀ i < k, f.pending i ≠ [] ∧ f.Answered i)
    (hdone : f.pending k = []) :
    f.run = (.ok (Client.inOrder f.keys (f.found k)), f.session k) := by
  rw [run_eq, rest_skip hk h, f.rest_of_done hdone]
  rfl

/-- There is a first round that has no key left to ask for. -/
theorem exists_first_done (h : ∃ k ≤ f.limit, f.pending k = []) :
    ∃ k ≤ f.limit, (∀ i < k, f.pending i ≠ []) ∧ f.pending k = [] := by
  obtain ⟨k, hk, hdone⟩ := h
  have hexists : ∃ j, f.pending j = [] := ⟨k, hdone⟩
  exact ⟨Nat.find hexists, Nat.le_trans (Nat.find_min' hexists hdone) hk,
    fun i hi => Nat.find_min hexists hi, Nat.find_spec hexists⟩

end Fetch

end EntityStore
