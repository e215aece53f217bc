import EntityStore.Proofs.Lookup.Deferral

/-!
# Lookups of any service

A service may report entities that nobody asked for, or report an entity several times and each time
another one, and it may defer any keys. A lookup asks for what is deferred as it comes, ends within
the limit of rounds, and keeps to the keys of its request.

* `Fetch.sent`, `Fetch.requests_session` — the requests of the first rounds;
* `Fetch.run_of_unfinished` — a lookup that has used up its rounds;
* `Fetch.latest` — for each key of the request, the entity that is reported last;
* `Fetch.Reports`, `Fetch.reports_latest` — how these entities go with what is reported;
* `getAll_latest` — what a lookup sends and returns, whatever comes back.
-/

namespace EntityStore

variable {σ : Type}

/-- No item is repeated after its repetitions are taken away. -/
theorem nodup_eraseDups {α : Type} [BEq α] [LawfulBEq α] (as : List α) : as.eraseDups.Nodup := by
  induction hn : as.length using Nat.strong_induction_on generalizing as with
  | _ n ih =>
    cases as with
    | nil => simp
    | cons a rest =>
      have hshorter : (rest.filter fun b => !b == a).length < n := by
        have hle := List.length_filter_le (fun b => !b == a) rest
        rw [List.length_cons] at hn
        omega
      rw [List.eraseDups_cons, List.nodup_cons]
      refine ⟨fun hmem => ?_, ih _ hshorter _ rfl⟩
      have hkept := (List.mem_filter.mp (List.mem_eraseDups.mp hmem)).2
      simp at hkept

namespace Fetch

variable (f : Fetch σ)

/-! ### What is sent -/

/-- The requests of the first rounds. -/
def sent (k : Nat) : List ((m : Wire.Method) × Wire.Request m) :=
  (List.range k).map fun i => ⟨.lookup, f.client.lookupRequest f.transaction (f.pending i)⟩

theorem sent_succ (k : Nat) :
    f.sent (k + 1) =
      f.sent k ++ [⟨.lookup, f.client.lookupRequest f.transaction (f.pending k)⟩] := by
  rw [sent, List.range_succ, List.map_append]
  rfl

/-- Every round that is answered has sent its request. -/
theorem requests_session {k : Nat} (h : ∀ i < k, f.Answered i) :
    (f.session k).requests = f.start.requests ++ f.sent k := by
  induction k with
  | zero => exact (List.append_nil _).symm
  | succ k ih =>
    obtain ⟨r, -, hresponse, -⟩ := h k (Nat.lt_succ_self k)
    have hbefore := ih fun i hi => h i (Nat.lt_succ_of_lt hi)
    rw [session_succ, call, Transport.requests_call_of_ok _ hresponse, hbefore, sent_succ,
      List.append_assoc]

/-! ### Rounds that are used up -/

theorem rest_of_unfinished {i : Nat} (hleft : f.pending i ≠ []) :
    f.rest 0 i = (.error (f.client.lookupUnfinished (f.pending i).length), f.session i) := by
  rw [rest]
  cases hpending : f.pending i with
  | nil => exact absurd hpending hleft
  | cons key keys => rfl

/-- A lookup that still has keys to ask for when no round is left. -/
theorem run_of_unfinished (h : ∀ i < f.limit, f.pending i ≠ [] ∧ f.Answered i)
    (hleft : f.pending f.limit ≠ []) :
    f.run = (.error (f.client.lookupUnfinished (f.pending f.limit).length), f.session f.limit) := by
  rw [run_eq, rest_skip (Nat.le_refl _) h, Nat.sub_self, f.rest_of_unfinished hleft]
  rfl

/-! ### What is returned -/

/-- For each key of the request, at its first place, the entity that the first rounds report last
for it, if they report one. -/
def latest (k : Nat) : List Entity :=
  (f.keys.map Key.unmarked).eraseDups.filterMap fun key =>
    (f.reported k).reverse.find? (·.key.same key)

theorem inOrder_found (k : Nat) : Client.inOrder f.keys (f.found k) = f.latest k := by
  rw [Client.inOrder_eq, latest]
  exact congrArg (List.filterMap · _) (funext (f.entityFor_found k))

/-- How entities go with what the first rounds report. Their keys are distinct keys of the request
in the order of their first places; no round reports another entity for a key after the one that is
returned; and every key of the request that is reported has its entity. -/
structure Reports (k : Nat) (es : List Entity) : Prop where
  order : (es.map (·.key.unmarked)).Sublist (f.keys.map Key.unmarked).eraseDups
  distinct : (es.map (·.key.unmarked)).Nodup
  last : ∀ e ∈ es, ∃ front back, f.reported k = front ++ e :: back ∧
    ∀ other ∈ back, other.key.same e.key = false
  complete : ∀ key ∈ f.keys, (∃ e ∈ f.reported k, e.key.same key = true) →
    ∃ e ∈ es, e.key.same key = true

/-- The keys of the entities are the keys of the request, without those that are not reported. -/
theorem keys_latest (k : Nat) :
    (f.latest k).map (·.key.unmarked) = (f.keys.map Key.unmarked).eraseDups.filter fun key =>
      ((f.reported k).reverse.find? (·.key.same key)).isSome := by
  rw [latest, List.map_filterMap, ← List.filterMap_eq_filter]
  refine List.filterMap_congr fun key hkey => ?_
  obtain ⟨asked, -, rfl⟩ := List.mem_map.mp (List.mem_eraseDups.mp hkey)
  cases hfind : (f.reported k).reverse.find? (·.key.same asked.unmarked) with
  | none => simp [Option.guard, hfind]
  | some e =>
    have hsame : e.key.unmarked = asked.unmarked.unmarked :=
      (Key.same_iff _ _).mp (by simpa using List.find?_some hfind)
    simp [Option.guard, hfind, hsame]

/-- **The entities that are reported last go with the reports.** -/
theorem reports_latest (k : Nat) : f.Reports k (f.latest k) where
  order := by
    rw [keys_latest]
    exact List.filter_sublist
  distinct := by
    rw [keys_latest]
    exact (nodup_eraseDups _).filter _
  last := by
    intro e he
    obtain ⟨key, -, hfind⟩ := List.mem_filterMap.mp he
    obtain ⟨hsame, later, earlier, hsplit, hlater⟩ := List.find?_eq_some_iff_append.mp hfind
    refine ⟨earlier.reverse, later.reverse, ?_, ?_⟩
    · rw [← List.reverse_reverse (f.reported k), hsplit]
      simp
    · intro other hother
      have hne : other.key.same key = false := by
        simpa using hlater other (List.mem_reverse.mp hother)
      rw [Key.same_eq_decide] at hne ⊢
      rw [(Key.same_iff _ _).mp hsame]
      exact hne
  complete := by
    rintro key hkey ⟨e, he, hsame⟩
    have hasked : key.unmarked ∈ (f.keys.map Key.unmarked).eraseDups :=
      List.mem_eraseDups.mpr (List.mem_map_of_mem hkey)
    obtain ⟨e', hfind⟩ :
        ∃ e', (f.reported k).reverse.find? (·.key.same key.unmarked) = some e' := by
      rw [← Option.isSome_iff_exists, List.find?_isSome]
      exact ⟨e, List.mem_reverse.mpr he, by rwa [Key.same_unmarked]⟩
    have hfound : e'.key.same key.unmarked = true := by simpa using List.find?_some hfind
    rw [Key.same_unmarked] at hfound
    exact ⟨e', List.mem_filterMap.mpr ⟨key.unmarked, hasked, hfind⟩, hfound⟩

/-- A lookup of no keys sends nothing. -/
theorem getAll_nil (s : Schema) (into : Option Target) :
    f.client.getAll f.service s f.transaction [] into f.start = (.ok [], f.start) := by
  have hnothing := ({ f with keys := [] } : Fetch σ).getAll_eq s into
  rw [run_of_done (Nat.zero_le _) nofun rfl] at hnothing
  exact hnothing

end Fetch

/-- **Lookups whatever comes back.** The first request has the keys of the request, and each further
one has the keys that the answer before it defers, as they are. A lookup of no keys sends nothing.
If the entities of all answers are read, a lookup ends with the first answer that defers nothing,
and else with the last round that it may take. In the first case it returns, for each key of the
request, the entity that was reported last; in the second case it fails. -/
theorem getAll_latest (f : Fetch σ) (s : Schema)
    (h : ∀ i < f.limit, (∀ j ≤ i, f.pending j ≠ []) → f.Answered i) :
    f.pending 0 = f.keys.map (·.encode f.client.projectId) ∧
    (∀ i r, f.response i = .ok r → f.pending (i + 1) = r.deferred) ∧
    (∀ into, f.client.getAll f.service s f.transaction [] into f.start = (.ok [], f.start)) ∧
    ∃ n ≤ f.limit, (∀ i < n, f.pending i ≠ []) ∧
      (∀ into, (f.client.getAll f.service s f.transaction (f.keys.map .key) into f.start).2 =
        f.session n) ∧
      (f.session n).requests = f.start.requests ++ f.sent n ∧
      (f.pending n = [] ∧ f.Reports n (f.latest n) ∧
          (f.client.getAll f.service s f.transaction (f.keys.map .key) none f.start).1 =
            .ok ((f.latest n).map .entity) ∧
          (∀ into, (f.client.getAll f.service s f.transaction (f.keys.map .key) into f.start).1 =
            (f.latest n).mapM (Client.present s into)) ∨
        n = f.limit ∧ f.pending n ≠ [] ∧
          ∀ into, (f.client.getAll f.service s f.transaction (f.keys.map .key) into f.start).1 =
            .error (f.client.lookupUnfinished (f.pending n).length)) := by
  refine ⟨rfl, fun i r => f.pending_succ, f.getAll_nil s, ?_⟩
  by_cases hdone : ∃ k ≤ f.limit, f.pending k = []
  -- the first round with nothing to ask for ends the lookup
  · obtain ⟨n, hn, hleft, hnone⟩ := Fetch.exists_first_done hdone
    have hanswered : ∀ i < n, f.pending i ≠ [] ∧ f.Answered i := by
      intro i hi
      exact ⟨hleft i hi, h i (by omega) fun j hj => hleft j (by omega)⟩
    have hrun : f.run = (.ok (f.latest n), f.session n) := by
      rw [Fetch.run_of_done hn hanswered hnone, f.inOrder_found]
    refine ⟨n, hn, hleft, ?_, f.requests_session fun i hi => (hanswered i hi).2,
      Or.inl ⟨hnone, f.reports_latest n, ?_, ?_⟩⟩
    · intro into
      rw [f.getAll_eq, hrun]
    · rw [f.getAll_eq, hrun]
      exact Client.mapM_present_none s _
    · intro into
      rw [f.getAll_eq, hrun]
      rfl
  -- every round asks for something, the one behind the limit as well
  · have hleft : ∀ i ≤ f.limit, f.pending i ≠ [] := by
      intro i hi hnone
      exact hdone ⟨i, hi, hnone⟩
    have hanswered : ∀ i < f.limit, f.pending i ≠ [] ∧ f.Answered i := by
      intro i hi
      exact ⟨hleft i (by omega), h i hi fun j hj => hleft j (by omega)⟩
    have hrun := f.run_of_unfinished hanswered (hleft _ (Nat.le_refl _))
    refine ⟨f.limit, Nat.le_refl _, fun i hi => (hanswered i hi).1, ?_,
      f.requests_session fun i hi => (hanswered i hi).2,
      Or.inr ⟨rfl, hleft _ (Nat.le_refl _), ?_⟩⟩
    · intro into
      rw [f.getAll_eq, hrun]
    · intro into
      rw [f.getAll_eq, hrun]
      rfl

/-- A guest with a number. -/
def guest (name : String) (n : Int64) : Wire.Entity :=
  ⟨some ((guestKey name).encode "p"), [("n", .plain (.integer n) false)]⟩

/-- A lookup of three guests, one of them twice, in at most two rounds. The first answer reports a
guest twice and one that nobody asked for, and defers two guests and an errand. The second answer
reports the first guest once more, and defers some keys. -/
def strayGuests (deferred : List Wire.Key) : Fetch Script where
  client :=
    ⟨"p", { Config.ofProject "p" with maxRounds := 2, maxRounds_pos := Nat.two_pos }, .empty⟩
  service := .playing
  transaction := none
  keys := [guestKey "b", guestKey "a", guestKey "c", (guestKey "b").markNew]
  start := .playing
    [⟨.lookup, .ok ⟨[guest "a" 1, guest "z" 0, guest "a" 2], [], [(guestKey "b").encode "p",
      (guestKey "b").encode "p", ⟨none, [⟨"Errand", none⟩]⟩]⟩⟩,
      ⟨.lookup, .ok ⟨[guest "b" 1, guest "a" 3], [], deferred⟩⟩]

theorem answered_strayGuests (deferred : List Wire.Key) :
    ∀ i < 2, (strayGuests deferred).Answered i
  | 0, _ => ⟨_, _, rfl, rfl⟩
  | 1, _ => ⟨_, _, rfl, rfl⟩

/-- If the second answer defers nothing, each guest comes as it was reported last. Else the lookup
fails. -/
theorem getAll_latest_stray :
    ((strayGuests []).client.getAll .playing [] none ((strayGuests []).keys.map .key) none
        (strayGuests []).start).1 =
      .ok [.entity ⟨guestKey "b", [("n", .integer 1)]⟩,
        .entity ⟨guestKey "a", [("n", .integer 3)]⟩] ∧
    ((strayGuests [(guestKey "c").encode "p"]).client.getAll .playing [] none
        ((strayGuests []).keys.map .key) none
          (strayGuests [(guestKey "c").encode "p"]).start).1 =
      .error ((strayGuests []).client.lookupUnfinished 1) := by
  constructor
  · obtain ⟨-, -, -, n, hn, -, -, -, hend⟩ := getAll_latest (strayGuests []) []
      fun i hi _ => answered_strayGuests [] i hi
    rcases hend with ⟨hdone, -, hreturned, -⟩ | ⟨rfl, hleft, -⟩
    · match n, hn with
      | 0, _ => exact absurd hdone (List.cons_ne_nil _ _)
      | 1, _ => exact absurd hdone (List.cons_ne_nil _ _)
      | 2, _ => exact hreturned
    · exact absurd rfl hleft
  · obtain ⟨-, -, -, n, hn, -, -, -, hend⟩ :=
      getAll_latest (strayGuests [(guestKey "c").encode "p"]) []
        fun i hi _ => answered_strayGuests _ i hi
    rcases hend with ⟨hdone, -⟩ | ⟨rfl, -, hreturned⟩
    · match n, hn with
      | 0, _ => exact absurd hdone (List.cons_ne_nil _ _)
      | 1, _ => exact absurd hdone (List.cons_ne_nil _ _)
      | 2, _ => exact absurd hdone (List.cons_ne_nil _ _)
    · exact hreturned none

end EntityStore
