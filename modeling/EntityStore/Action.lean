import EntityStore.Error

/-!
# Actions

Steps that change a state and may fail. A step that fails keeps what it changed before.

* `Action` — a step, run by applying it to a state;
* `Action.ofOutcome`, `Action.state`, `Action.update` — the basic steps;
* `Action.pure_apply`, `Action.bind_apply`, `Action.map_apply` — how steps are composed.
-/

namespace EntityStore

/-- A step that changes a state and may fail. -/
def Action (σ α : Type) : Type := σ → Outcome α × σ

namespace Action

variable {σ α β : Type}

/-- A step, and then the step that its result asks for. -/
def andThen (x : Action σ α) (f : α → Action σ β) : Action σ β := fun s =>
  match x s with
  | (.ok a, t) => f a t
  | (.error e, t) => (.error e, t)

instance : Monad (Action σ) where
  pure a := fun s => (.ok a, s)
  bind := andThen

/-- The step with a given result. -/
def ofOutcome (r : Outcome α) : Action σ α := fun s => (r, s)

/-- The state. -/
def state : Action σ σ := fun s => (.ok s, s)

/-- A change of the state. -/
def update (f : σ → σ) : Action σ Unit := fun s => (.ok (), f s)

@[simp] theorem pure_apply (a : α) (s : σ) : (pure a : Action σ α) s = (.ok a, s) := rfl

theorem bind_apply (x : Action σ α) (f : α → Action σ β) (s : σ) :
    (x >>= f) s =
      match x s with
      | (.ok a, t) => f a t
      | (.error e, t) => (.error e, t) := rfl

theorem bind_of_ok {x : Action σ α} {s t : σ} {a : α} (f : α → Action σ β)
    (h : x s = (.ok a, t)) : (x >>= f) s = f a t := by
  rw [bind_apply, h]

theorem bind_of_error {x : Action σ α} {s t : σ} {e : Error} (f : α → Action σ β)
    (h : x s = (.error e, t)) : (x >>= f) s = (.error e, t) := by
  rw [bind_apply, h]

theorem map_apply (f : α → β) (x : Action σ α) (s : σ) :
    (f <$> x) s = ((x s).1.map f, (x s).2) := by
  show x.andThen (fun a => pure (f a)) s = _
  unfold andThen
  split
  next h => rw [h]; rfl
  next h => rw [h]; rfl

theorem seqRight_pure_apply (b : β) (x : Action σ α) (s : σ) :
    (x *> pure b) s = ((x s).1.map fun _ => b, (x s).2) :=
  map_apply (fun _ => b) x s

@[simp] theorem ofOutcome_apply (r : Outcome α) (s : σ) :
    (ofOutcome r : Action σ α) s = (r, s) := rfl

theorem ofOutcome_bind_of_ok {r : Outcome α} {a : α} (f : α → Action σ β) (s : σ)
    (h : r = .ok a) : (ofOutcome r >>= f) s = f a s := by
  rw [h]
  rfl

theorem ofOutcome_bind_of_error {r : Outcome α} {e : Error} (f : α → Action σ β) (s : σ)
    (h : r = .error e) : (ofOutcome r >>= f) s = (.error e, s) := by
  rw [h]
  rfl

theorem bind_ofOutcome_apply (x : Action σ α) (f : α → Outcome β) (s : σ) :
    (x >>= fun a => ofOutcome (f a)) s = ((x s).1.bind f, (x s).2) := by
  rw [bind_apply]
  split
  next h => rw [h]; rfl
  next h => rw [h]; rfl

@[simp] theorem state_apply (s : σ) : (state : Action σ σ) s = (.ok s, s) := rfl

@[simp] theorem update_apply (f : σ → σ) (s : σ) : update f s = (.ok (), f s) := rfl

end Action

end EntityStore
