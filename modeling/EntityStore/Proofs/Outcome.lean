import EntityStore.Error
import Mathlib.Data.List.Forall2

/-!
# Outcomes of steps one after the other

Many functions treat a list item by item and stop at the first error. Where such a function
succeeds, the item and the rest of the list have succeeded.

* `map_eq_ok`, `map_eq_error` — a mapped outcome that succeeds or fails;
* `toOption_eq_some` — an outcome without its error;
* `both_eq_ok` — an item and a rest that succeed together;
* `mapM_eq_ok_iff`, `exists_mapM_iff`, `mem_of_mapM`, `exists_of_mapM_error` — a list of which every
  item succeeds, or one fails;
* `mapM_of_first_error`, `exists_first_error` — the first item that fails;
* `Outcome.error?` — the error of an outcome, with the errors of steps one after the other;
* `Outcome.FailsAtFirst` — an outcome that is decided by the first place where something is wrong;
* `Outcome.Follows` — an outcome that succeeds wherever another one does.
-/

namespace EntityStore

variable {α β γ : Type}

theorem map_eq_ok {x : Outcome α} {f : α → β} {b : β} (h : x.map f = .ok b) :
    ∃ a, x = .ok a ∧ f a = b := by
  cases x with
  | error e => cases h
  | ok a => exact ⟨a, rfl, Except.ok.inj h⟩

theorem map_eq_error {x : Outcome α} {f : α → β} {e : Error} (h : x.map f = .error e) :
    x = .error e := by
  cases x with
  | error e' => exact congrArg Except.error (Except.error.inj h)
  | ok a => cases h

theorem toOption_eq_some {x : Outcome α} {a : α} : x.toOption = some a ↔ x = .ok a := by
  cases x with
  | error e => exact ⟨nofun, nofun⟩
  | ok b => exact ⟨fun h => congrArg Except.ok (Option.some.inj h), fun h => h ▸ rfl⟩

theorem bind_eq_ok {x : Outcome α} {f : α → Outcome β} {b : β} (h : (x >>= f) = .ok b) :
    ∃ a, x = .ok a ∧ f a = .ok b := by
  cases x with
  | error e => cases h
  | ok a => exact ⟨a, rfl, h⟩

theorem bind_pure_eq_map {x : Outcome α} {f : α → β} : (x >>= fun a => pure (f a)) = x.map f := by
  cases x <;> rfl

/-- If an item and then the rest are treated with success, each of the two is. -/
theorem both_eq_ok {x : Outcome α} {y : Outcome β} {f : α → β → γ} {c : γ}
    (h : (x.bind fun a => y.map (f a)) = .ok c) :
    ∃ a b, x = .ok a ∧ y = .ok b ∧ f a b = c := by
  cases x with
  | error e => cases h
  | ok a =>
    obtain ⟨b, hb, hc⟩ := map_eq_ok h
    exact ⟨a, b, rfl, hb, hc⟩

/-- A list is treated with success exactly if each of its items is. -/
theorem mapM_eq_ok_iff {f : α → Outcome β} {as : List α} {bs : List β} :
    as.mapM f = .ok bs ↔ List.Forall₂ (fun a b => f a = .ok b) as bs := by
  induction as generalizing bs with
  | nil =>
    rw [List.forall₂_nil_left_iff]
    exact ⟨fun h => (Except.ok.inj h).symm, fun h => h ▸ rfl⟩
  | cons a as ih =>
    rw [List.mapM_cons, List.forall₂_cons_left_iff]
    constructor
    · intro h
      obtain ⟨b, hb, h⟩ := bind_eq_ok h
      obtain ⟨rest, hrest, h⟩ := bind_eq_ok h
      exact ⟨b, rest, hb, ih.mp hrest, (Except.ok.inj h).symm⟩
    · rintro ⟨b, rest, hb, hrest, rfl⟩
      rw [hb, ih.mpr hrest]
      rfl

/-- What comes of a list comes of its items. -/
theorem mem_of_mapM {f : α → Outcome β} {as : List α} {bs : List β} (h : as.mapM f = .ok bs)
    {b : β} : b ∈ bs ↔ ∃ a ∈ as, f a = .ok b := by
  induction mapM_eq_ok_iff.mp h with
  | nil => simp
  | @cons a b' as bs hb hrest ih =>
    rw [List.mem_cons, List.exists_mem_cons_iff, ih (mapM_eq_ok_iff.mpr hrest), hb]
    exact or_congr_left ⟨fun heq => congrArg _ heq.symm, fun heq => (Except.ok.inj heq).symm⟩

theorem exists_mapM_iff {f : α → Outcome β} {as : List α} :
    (∃ bs, as.mapM f = .ok bs) ↔ ∀ a ∈ as, ∃ b, f a = .ok b := by
  simp only [mapM_eq_ok_iff]
  induction as with
  | nil => simp
  | cons a as ih =>
    rw [List.forall_mem_cons, ← ih]
    simp only [List.forall₂_cons_left_iff]
    constructor
    · rintro ⟨_, b, bs, hb, hbs, rfl⟩
      exact ⟨⟨b, hb⟩, bs, hbs⟩
    · rintro ⟨⟨b, hb⟩, bs, hbs⟩
      exact ⟨b :: bs, b, bs, hb, hbs, rfl⟩

/-- Where a list fails, one of its items does, with the same error. -/
theorem exists_of_mapM_error {f : α → Outcome β} {as : List α} {e : Error}
    (h : as.mapM f = .error e) : ∃ a ∈ as, f a = .error e := by
  induction as with
  | nil => cases h
  | cons a as ih =>
    rw [List.mapM_cons] at h
    cases ha : f a with
    | error e' =>
      rw [ha] at h
      obtain rfl : e' = e := Except.error.inj h
      exact ⟨a, List.mem_cons_self, ha⟩
    | ok b =>
      rw [ha] at h
      cases hrest : as.mapM f with
      | error e' =>
        rw [hrest] at h
        obtain rfl : e' = e := Except.error.inj h
        obtain ⟨a', ha', herror⟩ := ih hrest
        exact ⟨a', List.mem_cons_of_mem a ha', herror⟩
      | ok bs =>
        rw [hrest] at h
        cases h

/-- A list that is not treated with success fails with its first item that does. -/
theorem mapM_of_first_error {f : α → Outcome β} {front back : List α} {a : α}
    {e : Error} (hfront : ∀ a ∈ front, ∃ b, f a = .ok b) (h : f a = .error e) :
    (front ++ a :: back).mapM f = .error e := by
  obtain ⟨bs, hbs⟩ := exists_mapM_iff.mpr hfront
  rw [List.mapM_append, hbs, List.mapM_cons, h]
  rfl

/-- Where some item fails, there is a first one that does. -/
theorem exists_first_error {f : α → Outcome β} {as : List α}
    (h : ∃ a ∈ as, ∃ e, f a = .error e) :
    ∃ front a back e, as = front ++ a :: back ∧ (∀ a ∈ front, ∃ b, f a = .ok b) ∧
      f a = .error e := by
  induction as with
  | nil => simp at h
  | cons a rest ih =>
    cases ha : f a with
    | error e => exact ⟨[], a, rest, e, rfl, nofun, ha⟩
    | ok b =>
      have hrest : ∃ a ∈ rest, ∃ e, f a = .error e := by simpa [ha] using h
      obtain ⟨front, a', back, e, hsplit, hfront, herror⟩ := ih hrest
      refine ⟨a :: front, a', back, e, congrArg (a :: ·) hsplit, ?_, herror⟩
      exact List.forall_mem_cons.mpr ⟨⟨b, ha⟩, hfront⟩

/-! ### The first place where something is wrong -/

theorem findSome?_congr {f g : α → Option β} {as : List α} (h : ∀ a ∈ as, f a = g a) :
    as.findSome? f = as.findSome? g := by
  induction as with
  | nil => rfl
  | cons a rest ih =>
    rw [List.findSome?_cons, List.findSome?_cons, h a List.mem_cons_self,
      ih fun b hb => h b (List.mem_cons_of_mem a hb)]

theorem findSome?_flatMap (f : β → Option γ) (places : α → List β) (as : List α) :
    (as.flatMap places).findSome? f = as.findSome? fun a => (places a).findSome? f := by
  induction as with
  | nil => rfl
  | cons a rest ih =>
    rw [List.flatMap_cons, List.findSome?_append, List.findSome?_cons, ih]
    cases (places a).findSome? f <;> rfl

namespace Outcome

/-- The error of an outcome that fails. -/
def error? : Outcome α → Option Error
  | .error e => some e
  | .ok _ => none

theorem error?_eq_some_iff {x : Outcome α} {e : Error} : error? x = some e ↔ x = .error e := by
  cases x with
  | error e' =>
    exact ⟨fun h => congrArg Except.error (Option.some.inj h), fun h => congrArg error? h⟩
  | ok a => exact ⟨nofun, nofun⟩

theorem error?_eq_none_iff {x : Outcome α} : error? x = none ↔ ∃ a, x = .ok a := by
  cases x with
  | error e => exact ⟨nofun, nofun⟩
  | ok a => exact ⟨fun _ => ⟨a, rfl⟩, fun _ => rfl⟩

@[simp] theorem error?_map (x : Outcome α) (f : α → β) : error? (x.map f) = error? x := by
  cases x <;> rfl

/-- The error of two steps is that of the first one that fails. -/
theorem error?_both (x : Outcome α) (y : Outcome β) (f : α → β → γ) :
    error? (x.bind fun a => y.map (f a)) = (error? x).or (error? y) := by
  cases x with
  | error e => rfl
  | ok a => exact error?_map y (f a)

theorem error?_mapM (f : α → Outcome β) (as : List α) :
    error? (as.mapM f) = as.findSome? fun a => error? (f a) := by
  induction as with
  | nil => rfl
  | cons a rest ih =>
    rw [List.mapM_cons, List.findSome?_cons]
    cases f a with
    | error e => rfl
    | ok b =>
      show error? ((rest.mapM f).bind _) = rest.findSome? _
      rw [← ih]
      cases rest.mapM f <;> rfl

/-- An outcome that is decided by the first of several places where something is wrong: it succeeds
where nothing is wrong at any place, and else it fails with what is wrong at the first one. -/
structure FailsAtFirst (places : List β) (Wrong : β → Error → Prop) (x : Outcome α) : Prop where
  returns : (∃ a, x = .ok a) ↔ ∀ p ∈ places, ∀ e, ¬ Wrong p e
  fails : ∀ e, x = .error e ↔ ∃ front p back, places = front ++ p :: back ∧
    (∀ q ∈ front, ∀ e', ¬ Wrong q e') ∧ Wrong p e

theorem failsAtFirst {places : List β} {wrong? : β → Option Error} {Wrong : β → Error → Prop}
    {x : Outcome α} (hwrong : ∀ p e, wrong? p = some e ↔ Wrong p e)
    (h : error? x = places.findSome? wrong?) : FailsAtFirst places Wrong x := by
  have hnone (p : β) : wrong? p = none ↔ ∀ e, ¬ Wrong p e := by
    simp only [Option.eq_none_iff_forall_ne_some, ne_eq, hwrong]
  constructor
  · rw [← error?_eq_none_iff, h, List.findSome?_eq_none_iff]
    simp only [hnone]
  · intro e
    rw [← error?_eq_some_iff, h, List.findSome?_eq_some_iff]
    simp only [hnone, hwrong]
    constructor
    · rintro ⟨front, p, back, hsplit, hp, hfront⟩
      exact ⟨front, p, back, hsplit, hfront, hp⟩
    · rintro ⟨front, p, back, hsplit, hfront, hp⟩
      exact ⟨front, p, back, hsplit, hp, hfront⟩

end Outcome

/-! ### Two outcomes side by side -/

/-- Where the first outcome is a success, so is the second, with a related result. -/
def Outcome.Follows (R : α → β → Prop) (x : Outcome α) (y : Outcome β) : Prop :=
  ∀ a, x = .ok a → ∃ b, y = .ok b ∧ R a b

namespace Outcome.Follows

variable {δ : Type} {R : α → β → Prop} {S : γ → δ → Prop}

theorem ok {a : α} {b : β} (h : R a b) : Outcome.Follows R (.ok a) (.ok b) := by
  intro a' ha
  obtain rfl := Except.ok.inj ha
  exact ⟨b, rfl, h⟩

theorem error (e : Error) (y : Outcome β) : Outcome.Follows R (.error e) y := nofun

theorem bind {x : Outcome α} {y : Outcome β} {f : α → Outcome γ} {g : β → Outcome δ}
    (h : Outcome.Follows R x y) (hfg : ∀ a b, R a b → Outcome.Follows S (f a) (g b)) :
    Outcome.Follows S (x.bind f) (y.bind g) := by
  intro c hc
  obtain ⟨a, ha, hfa⟩ := bind_eq_ok hc
  obtain ⟨b, rfl, hab⟩ := h a ha
  exact hfg a b hab c hfa

theorem map {x : Outcome α} {y : Outcome β} {f : α → γ} {g : β → δ} (h : Outcome.Follows R x y)
    (hfg : ∀ a b, R a b → S (f a) (g b)) : Outcome.Follows S (x.map f) (y.map g) := by
  intro c hc
  obtain ⟨a, ha, rfl⟩ := map_eq_ok hc
  obtain ⟨b, rfl, hab⟩ := h a ha
  exact ⟨g b, rfl, hfg a b hab⟩

/-- An item and the rest of a list. -/
theorem cons {x : Outcome α} {y : Outcome β} {xs : Outcome (List α)} {ys : Outcome (List β)}
    (h : Outcome.Follows R x y) (hrest : Outcome.Follows (List.Forall₂ R) xs ys) :
    Outcome.Follows (List.Forall₂ R) (x.bind fun a => xs.map (a :: ·))
      (y.bind fun b => ys.map (b :: ·)) :=
  h.bind fun _ _ hab => hrest.map fun _ _ habs => .cons hab habs

theorem mapM {as : List γ} {f : γ → Outcome α} {g : γ → Outcome β}
    (h : ∀ c ∈ as, Outcome.Follows R (f c) (g c)) :
    Outcome.Follows (List.Forall₂ R) (as.mapM f) (as.mapM g) := by
  induction as with
  | nil => exact ok .nil
  | cons c rest ih =>
    rw [List.mapM_cons, List.mapM_cons]
    exact (h c List.mem_cons_self).bind fun _ _ hab =>
      (ih fun d hd => h d (List.mem_cons_of_mem c hd)).bind fun _ _ habs => ok (.cons hab habs)

end Outcome.Follows

end EntityStore
