import EntityStore.Proofs.Lookup.Rounds
import EntityStore.Proofs.Transaction.Calls
import EntityStore.Proofs.Wire.Key

/-!
# Lookups do not depend on what is deferred

A service that holds entities may answer a part of a lookup and defer the rest, in every round
another part. The keys of the request decide about the result, and the schedule does not.

* `Wire.Store` — stored messages under their keys;
* `Wire.LookupResponse.Answers` — what an answer owes to the store and to the keys asked for;
* `Fetch.IsServed` — a lookup of which every round is answered from a store;
* `Fetch.Progress`, `Fetch.progress` — what has been found before a round;
* `getAll_deferrals` — the result of every lookup that is served and leaves no key deferred;
* `Service.deferring` — a service that settles a number of keys in each round.
-/

namespace EntityStore

variable {σ : Type}

/-! ### Stores -/

namespace Wire

/-- Stored entities under their keys, each of which is the key that the message carries. -/
structure Store where
  entity? : Key → Option Entity
  carries : ∀ k m, entity? k = some m → m.key.map Key.decode = some k.decode

namespace Store

variable (store : Store)

/-- The messages of a list under the keys that they carry. If two carry the same key, the first one
counts. -/
def ofMessages (ms : List Entity) : Store where
  entity? k := ms.find? (·.key == some k)
  carries k m h := by
    have hkey : m.key = some k := by simpa using List.find?_some h
    rw [hkey]
    rfl

theorem mem_of_ofMessages {ms : List Entity} {k : Key} {m : Entity}
    (h : (ofMessages ms).entity? k = some m) : m ∈ ms :=
  List.mem_of_find?_eq_some h

/-- The entity that is stored for a key in a project, if there is one that can be read. -/
def entityOf (project : String) (k : EntityStore.Key) : Option EntityStore.Entity :=
  (store.entity? (k.encode project)).bind fun m => m.decode.toOption

theorem entityOf_unmarked (project : String) (k : EntityStore.Key) :
    store.entityOf project k.unmarked = store.entityOf project k := by
  rw [entityOf, entityOf, k.encode_unmarked]

theorem entityOf_of_stored {project : String} {k : EntityStore.Key} {m : Entity}
    {e : EntityStore.Entity} (hm : store.entity? (k.encode project) = some m)
    (he : m.decode = .ok e) : store.entityOf project k = some e := by
  rw [entityOf, hm, Option.bind_some, he]
  rfl

end Store

/-- An entity that is read has the key that its message carries. -/
theorem Entity.key_of_decode {m : Entity} {e : EntityStore.Entity} (h : m.decode = .ok e) :
    m.key.map Key.decode = some (.ok e.key) := by
  unfold Entity.decode at h
  cases hkey : m.key with
  | none =>
    rw [hkey] at h
    cases h
  | some k =>
    rw [hkey] at h
    obtain ⟨properties, _, h⟩ := bind_eq_ok h
    obtain ⟨key, hread, h⟩ := bind_eq_ok h
    obtain rfl := Except.ok.inj h
    exact congrArg some hread

/-- The entity that is stored for a key has this key, without its marks. -/
theorem Store.key_of_entityOf {store : Store} {project : String} {k : EntityStore.Key}
    {e : EntityStore.Entity} (hk : k.WellFormed) (h : store.entityOf project k = some e) :
    e.key = k.unmarked := by
  obtain ⟨m, hm, hread⟩ := Option.bind_eq_some_iff.mp h
  have hkeys := (Entity.key_of_decode (toOption_eq_some.mp hread)).symm.trans (store.carries _ m hm)
  rw [k.decode_encode project hk] at hkeys
  exact Except.ok.inj (Option.some.inj hkeys)

/-- An answer from a store to a lookup. It shows only what is stored under keys that were asked for,
defers only such keys, and shows what is stored under those that it does not defer. -/
structure LookupResponse.Answers (r : LookupResponse) (store : Store) (asked : List Key) :
    Prop where
  found : ∀ m ∈ r.found, ∃ k ∈ asked, store.entity? k = some m
  deferred : ∀ k ∈ r.deferred, k ∈ asked
  settled : ∀ k ∈ asked, k ∉ r.deferred → ∀ m, store.entity? k = some m → m ∈ r.found

end Wire

/-! ### Rounds that are answered from a store -/

namespace Fetch

variable (f : Fetch σ) (store : Wire.Store)

/-- A lookup of constructed keys, answered from a store in every round that asks for anything. What
is stored for these keys can be read. -/
structure IsServed : Prop where
  wellFormed : ∀ k ∈ f.keys, k.WellFormed
  readable : ∀ k ∈ f.keys, ∀ m, store.entity? (k.encode f.client.projectId) = some m →
    ∃ e, m.decode = .ok e
  answered : ∀ i < f.limit, f.pending i ≠ [] →
    ∃ r, f.response i = .ok r ∧ r.Answers store (f.pending i)

/-- What has been reported before a round, and what is still asked for: everything is about keys of
the request, and each of these is still asked for or has been reported if it is stored. -/
structure Progress (i : Nat) : Prop where
  pending : ∀ w ∈ f.pending i, ∃ k ∈ f.keys, k.encode f.client.projectId = w
  reported : ∀ e ∈ f.reported i, ∃ k ∈ f.keys, store.entityOf f.client.projectId k = some e
  settled : ∀ k ∈ f.keys, k.encode f.client.projectId ∈ f.pending i ∨
    ∀ e, store.entityOf f.client.projectId k = some e → e ∈ f.reported i

variable {f store}

theorem progress_zero : f.Progress store 0 where
  pending _ hw := List.mem_map.mp hw
  reported _ he := absurd he List.not_mem_nil
  settled _ hk := Or.inl (List.mem_map_of_mem hk)

/-- All entities of an answer are read. -/
theorem IsServed.exists_entities (h : f.IsServed store) {i : Nat} (hi : f.Progress store i)
    {r : Wire.LookupResponse} (hr : r.Answers store (f.pending i)) :
    ∃ es, r.found.mapM Wire.Entity.decode = .ok es := by
  refine exists_mapM_iff.mpr fun m hm => ?_
  obtain ⟨w, hw, hstored⟩ := hr.found m hm
  obtain ⟨k, hk, rfl⟩ := hi.pending w hw
  exact h.readable k hk m hstored

/-- **A round keeps the progress.** A key that was asked for is deferred, or what is stored under it
is reported now. -/
theorem Progress.succ (h : f.IsServed store) {i : Nat} (hi : f.Progress store i)
    (hlimit : i < f.limit) (hleft : f.pending i ≠ []) :
    f.Answered i ∧ f.Progress store (i + 1) := by
  obtain ⟨r, hresponse, hr⟩ := h.answered i hlimit hleft
  obtain ⟨es, hes⟩ := h.exists_entities hi hr
  have hreported : f.reported (i + 1) = f.reported i ++ es :=
    f.reported_succ i (f.entities_eq hresponse hes)
  refine ⟨⟨r, es, hresponse, hes⟩, ?_, ?_, ?_⟩
  · intro w hw
    rw [f.pending_succ hresponse] at hw
    exact hi.pending w (hr.deferred w hw)
  · intro e he
    rw [hreported, List.mem_append] at he
    rcases he with hbefore | hnow
    · exact hi.reported e hbefore
    · obtain ⟨m, hm, hme⟩ := (mem_of_mapM hes).mp hnow
      obtain ⟨w, hw, hstored⟩ := hr.found m hm
      obtain ⟨k, hk, rfl⟩ := hi.pending w hw
      exact ⟨k, hk, store.entityOf_of_stored hstored hme⟩
  · intro k hk
    rw [hreported, f.pending_succ hresponse]
    by_cases hdeferred : k.encode f.client.projectId ∈ r.deferred
    · exact Or.inl hdeferred
    · refine Or.inr fun e he => List.mem_append.mpr ?_
      rcases hi.settled k hk with hasked | hbefore
      · obtain ⟨m, hm, hme⟩ := Option.bind_eq_some_iff.mp he
        have hfound := hr.settled _ hasked hdeferred m hm
        exact Or.inr ((mem_of_mapM hes).mpr ⟨m, hfound, toOption_eq_some.mp hme⟩)
      · exact Or.inl (hbefore e he)

theorem progress (h : f.IsServed store) {k : Nat} (hk : k ≤ f.limit)
    (hleft : ∀ i < k, f.pending i ≠ []) : f.Progress store k := by
  induction k with
  | zero => exact progress_zero
  | succ k ih =>
    have hbefore := ih (by omega) fun i hi => hleft i (by omega)
    exact (hbefore.succ h hk (hleft k (by omega))).2

/-- When nothing is left to ask for, each key of the request has what is stored for it. -/
theorem Progress.entityFor_found (h : f.IsServed store) {i : Nat} (hi : f.Progress store i)
    (hdone : f.pending i = []) {k : Key} (hk : k ∈ f.keys) :
    Client.entityFor (f.found i) k = store.entityOf f.client.projectId k := by
  -- what is reported under the key is what is stored for it
  have hown : ∀ e ∈ f.reported i, e.key.same k = true →
      store.entityOf f.client.projectId k = some e := by
    intro e he hsame
    obtain ⟨l, hl, hstored⟩ := hi.reported e he
    have hunmarked : k.unmarked = l.unmarked := by
      rw [← (Key.same_iff _ _).mp hsame, Wire.Store.key_of_entityOf (h.wellFormed l hl) hstored,
        Key.unmarked_unmarked]
    rw [← store.entityOf_unmarked, hunmarked, store.entityOf_unmarked, hstored]
  rw [f.entityFor_found]
  cases hfind : (f.reported i).reverse.find? (·.key.same k) with
  | some e =>
    have he := List.mem_reverse.mp (List.mem_of_find?_eq_some hfind)
    have hsame : e.key.same k = true := by simpa using List.find?_some hfind
    exact (hown e he hsame).symm
  | none =>
    cases hstored : store.entityOf f.client.projectId k with
    | none => rfl
    | some e =>
      have hreported : e ∈ f.reported i := by
        rcases hi.settled k hk with hasked | hall
        · rw [hdone] at hasked
          cases hasked
        · exact hall e hstored
      have hsame : e.key.same k = true := by
        rw [Wire.Store.key_of_entityOf (h.wellFormed k hk) hstored]
        exact k.unmarked_same
      exact absurd hsame (List.find?_eq_none.mp hfind e (List.mem_reverse.mpr hreported))

/-! ### The result -/

variable (f store)

/-- What is stored for the keys of the request: for each key once, in the order in which the keys
first occur. -/
def wanted : List Entity :=
  (f.keys.map Key.unmarked).eraseDups.filterMap (store.entityOf f.client.projectId)

/-- What the application gets: entities as they are, or objects of a type. -/
def objects (s : Schema) (into : Option Target) : Outcome (List Native) :=
  (f.client.getAll f.service s f.transaction (f.keys.map .key) into f.start).1

variable {f store}

theorem Progress.inOrder_found (h : f.IsServed store) {i : Nat} (hi : f.Progress store i)
    (hdone : f.pending i = []) : Client.inOrder f.keys (f.found i) = f.wanted store := by
  rw [Client.inOrder_eq, wanted]
  refine List.filterMap_congr fun l hl => ?_
  obtain ⟨k, hk, rfl⟩ := List.mem_map.mp (List.mem_eraseDups.mp hl)
  rw [Client.entityFor_unmarked, store.entityOf_unmarked]
  exact hi.entityFor_found h hdone hk

theorem run_of_served (h : f.IsServed store) (hdone : ∃ k ≤ f.limit, f.pending k = []) :
    f.run.1 = .ok (f.wanted store) := by
  obtain ⟨k, hk, hleft, hnone⟩ := exists_first_done hdone
  have hanswered : ∀ i < k, f.pending i ≠ [] ∧ f.Answered i := by
    intro i hi
    have hbefore := progress h (by omega) fun j hj => hleft j (Nat.lt_trans hj hi)
    exact ⟨hleft i hi, (hbefore.succ h (by omega) (hleft i hi)).1⟩
  rw [run_of_done hk hanswered hnone, (progress h hk hleft).inOrder_found h hnone]

theorem objects_eq (s : Schema) (into : Option Target) :
    f.objects s into = f.run.1.bind fun es => es.mapM (Client.present s into) :=
  congrArg Prod.fst (f.getAll_eq s into)

theorem getAll_of_active {t : Transaction} (h : t.state = .active) (ht : f.transaction = some t.id)
    (s : Schema) (into : Option Target) :
    (Transaction.getAll f.client f.service s (f.keys.map .key) into (t, f.start)).1 =
      f.objects s into := by
  rw [Transaction.getAll_of_active h, objects, ht]

end Fetch

/-- Entities are presented as they are where no type is asked for. -/
theorem Client.mapM_present_none (s : Schema) (es : List Entity) :
    es.mapM (Client.present s none) = .ok (es.map .entity) := by
  rw [mapM_eq_ok_iff, List.forall₂_map_right_iff, List.forall₂_same]
  intro e _
  rfl

/-- **Lookups do not depend on what is deferred.** Whatever a service defers in each round, a lookup
that is answered from a store, and has no key left to ask for within the limit of rounds, returns
what is stored for the distinct keys of the request, each once, in the order in which the keys first
occur; with a type, the objects of the type. It does so in an open transaction as well. So two
services that hold the same, with schedules of their own, return the same. -/
theorem getAll_deferrals {f : Fetch σ} {store : Wire.Store} (h : f.IsServed store)
    (hdone : ∃ k ≤ f.limit, f.pending k = []) (s : Schema) :
    f.objects s none = .ok ((f.wanted store).map .entity) ∧
    (∀ into, f.objects s into = (f.wanted store).mapM (Client.present s into)) ∧
    (∀ t : Transaction, t.state = .active → f.transaction = some t.id → ∀ into,
      (Transaction.getAll f.client f.service s (f.keys.map .key) into (t, f.start)).1 =
        (f.wanted store).mapM (Client.present s into)) ∧
    ∀ {τ : Type} (g : Fetch τ), g.IsServed store → (∃ k ≤ g.limit, g.pending k = []) →
      g.client.projectId = f.client.projectId → g.keys = f.keys → ∀ into,
      g.objects s into = f.objects s into := by
  have hresult : ∀ {τ : Type} (g : Fetch τ), g.IsServed store →
      (∃ k ≤ g.limit, g.pending k = []) → ∀ into,
      g.objects s into = (g.wanted store).mapM (Client.present s into) := by
    intro τ g hserved hend into
    rw [g.objects_eq, Fetch.run_of_served hserved hend]
    rfl
  refine ⟨?_, hresult f h hdone, ?_, ?_⟩
  · rw [hresult f h hdone, Client.mapM_present_none]
  · intro t ht hid into
    rw [Fetch.getAll_of_active ht hid, hresult f h hdone]
  · intro τ g hserved hend hproject hkeys into
    rw [hresult g hserved hend, hresult f h hdone, Fetch.wanted, Fetch.wanted, hproject, hkeys]

/-! ### A service that defers by a schedule -/

namespace Fetch

variable {f : Fetch σ} {store : Wire.Store}

theorem hasStub_session (h : f.start.hasStub = true) (i : Nat) :
    (f.session i).hasStub = true := by
  induction i with
  | zero => exact h
  | succ i ih =>
    rw [session_succ]
    exact (Transport.hasStub_call _).trans ih

/-- On an open channel, a service that grants every token and answers every lookup from a store does
so in every round. -/
theorem answered_of_service (hstub : f.start.hasStub = true)
    (htoken : ∀ w, ∃ token w', f.service.token w = (.ok token, w'))
    (hanswer : ∀ asked w, ∃ r w', r.Answers store asked ∧
      f.service.answer .lookup (f.client.lookupRequest f.transaction asked) w = (.ok r, w'))
    (i : Nat) : ∃ r, f.response i = .ok r ∧ r.Answers store (f.pending i) := by
  obtain ⟨token, w, hgranted⟩ := htoken (f.session i).world
  obtain ⟨r, w', hr, hsent⟩ := hanswer (f.pending i) w
  have hcall := Transport.call_answered (m := .lookup)
    (f.client.lookupRequest f.transaction (f.pending i)) hgranted (hasStub_session hstub i)
  rw [hsent] at hcall
  exact ⟨r, congrArg Prod.fst hcall, hr⟩

end Fetch

/-- A service that answers lookups from a store. In each round it defers the keys that a schedule
picks, and shows the last of the others first. -/
def Service.deferring (store : Wire.Store) (schedule : Nat → Wire.Key → Bool) : Service Nat where
  token n := (.ok "owner", n)
  openChannel n := (.ok (), n)
  buildStub n := (.ok (), n)
  closeChannel n := (.ok (), n)
  answer
    | .lookup, request, n =>
      let asked := Wire.LookupRequest.keys request
      let now := asked.filter fun k => !schedule n k
      (.ok ⟨(now.filterMap store.entity?).reverse,
        (now.filter fun k => (store.entity? k).isNone).map fun k => ⟨some k, []⟩,
        asked.filter (schedule n)⟩, n + 1)
    | _, _, n => (.error (.runtime "unsupported"), n)

theorem Service.answers_deferring (store : Wire.Store) (schedule : Nat → Wire.Key → Bool)
    (request : Wire.LookupRequest) (n : Nat) :
    ∃ r n', r.Answers store request.keys ∧
      (Service.deferring store schedule).answer .lookup request n = (.ok r, n') := by
  refine ⟨_, _, ⟨?_, ?_, ?_⟩, rfl⟩
  · intro m hm
    obtain ⟨k, hk, hstored⟩ := List.mem_filterMap.mp (List.mem_reverse.mp hm)
    exact ⟨k, List.mem_of_mem_filter hk, hstored⟩
  · intro k hk
    exact List.mem_of_mem_filter hk
  · intro k hk hnow m hm
    refine List.mem_reverse.mpr (List.mem_filterMap.mpr ⟨k, List.mem_filter.mpr ⟨hk, ?_⟩, hm⟩)
    cases hpicked : schedule n k with
    | true => exact absurd (List.mem_filter.mpr ⟨hk, hpicked⟩) hnow
    | false => rfl

/-- The key of a guest. -/
def guestKey (name : String) : Key :=
  .root none ⟨"Guest", some (.name name), false, false⟩

/-- The guests that are stored. -/
def storedGuests : List Wire.Entity :=
  [⟨some ((guestKey "a").encode "p"), []⟩, ⟨some ((guestKey "b").encode "p"), []⟩]

/-- A lookup of guests, one of them twice and one that is not stored. -/
def guests (schedule : Nat → Wire.Key → Bool) : Fetch Nat where
  client := ⟨"p", Config.ofProject "p", .empty⟩
  service := .deferring (.ofMessages storedGuests) schedule
  transaction := none
  keys := [(guestKey "b").markDeleted, guestKey "c", (guestKey "a").markNew, guestKey "b"]
  start := ⟨0, true, true, true, []⟩

theorem guests_served (schedule : Nat → Wire.Key → Bool) :
    (guests schedule).IsServed (.ofMessages storedGuests) where
  wellFormed := by
    simp [guests, guestKey, Key.markDeleted, Key.markNew, Key.attach, Key.WellFormed, Key.segment,
      Key.namespace?, Key.parent?]
  readable k _ m hm := by
    have hstored := Wire.Store.mem_of_ofMessages hm
    simp only [storedGuests, List.mem_cons, List.not_mem_nil, or_false] at hstored
    rcases hstored with rfl | rfl
    · exact ⟨⟨guestKey "a", []⟩, rfl⟩
    · exact ⟨⟨guestKey "b", []⟩, rfl⟩
  answered i _ _ := Fetch.answered_of_service rfl (fun n => ⟨"owner", n, rfl⟩)
    (fun asked n => Service.answers_deferring _ schedule
      ((guests schedule).client.lookupRequest none asked) n) i

theorem guests_wanted (schedule : Nat → Wire.Key → Bool) :
    (guests schedule).wanted (.ofMessages storedGuests) =
      [⟨guestKey "b", []⟩, ⟨guestKey "a", []⟩] :=
  rfl

/-- Everything is deferred once, and one of the guests once more. -/
def lateGuest (n : Nat) (k : Wire.Key) : Bool :=
  n == 0 || n == 1 && k == (guestKey "b").encode "p"

/-- The guests come in the order of the request, whether some are deferred or none. -/
theorem getAll_deferrals_guests :
    (guests fun _ _ => false).objects [] none =
      .ok [.entity ⟨guestKey "b", []⟩, .entity ⟨guestKey "a", []⟩] ∧
    (guests lateGuest).objects [] none = (guests fun _ _ => false).objects [] none := by
  have hlate : (guests lateGuest).pending 3 = [] := by
    decide +kernel
  have hresult := getAll_deferrals (guests_served fun _ _ => false) ⟨1, by decide, rfl⟩ []
  rw [guests_wanted] at hresult
  obtain ⟨hall, -, -, hsame⟩ := hresult
  exact ⟨hall, hsame _ (guests_served lateGuest) ⟨3, by decide, hlate⟩ rfl rfl none⟩

end EntityStore
