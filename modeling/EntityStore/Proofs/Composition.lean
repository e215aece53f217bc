import EntityStore.Proofs.Operation

/-!
# Operations are made of calls

An operation that is not on the connection reaches the outside by calls alone, one after the other.
So what every call makes of a session, every such operation makes of it too: a relation between the
sessions before and after that holds along sequences needs to be looked at for one call only.

* `Service.Carries` — such a relation;
* `Action.Relates` — a step that makes it true, whatever the state; `Action.Relates.bind`;
* `Client.relates_lookup`, `Client.relates_runQuery`, … — the steps of a client make it true;
* `Transaction.Call.relates` — so do the calls of a transaction;
* `Activity.relates_perform` — and so does every operation that is not on the connection.
-/

namespace EntityStore

variable {σ τ α β : Type} {v : Service σ} {R : Session σ → Session σ → Prop}

/-- A relation between sessions that every call makes true, and that holds along sequences. -/
structure Service.Carries (v : Service σ) (R : Session σ → Session σ → Prop) : Prop where
  refl : ∀ x, R x x
  trans : ∀ {x y z}, R x y → R y z → R x z
  call : ∀ {m : Wire.Method} (request : Wire.Request m) (x : Session σ),
    R x (Transport.call v m request x).2

/-! ### Steps -/

/-- Whatever the state, a step makes a relation true of the sessions before and after. -/
def Action.Relates (R : Session σ → Session σ → Prop) (view : τ → Session σ) (a : Action τ α) :
    Prop :=
  ∀ t, R (view t) (view (a t).2)

namespace Action.Relates

variable {view : τ → Session σ} {a b : Action τ α}

/-- A step that leaves the session alone. -/
theorem silent (h : v.Carries R) (ha : ∀ t, view (a t).2 = view t) : a.Relates R view := by
  intro t
  rw [ha t]
  exact h.refl _

theorem pure (h : v.Carries R) (x : α) : (Pure.pure x : Action τ α).Relates R view :=
  silent h fun _ => rfl

theorem ofOutcome (h : v.Carries R) (r : Outcome α) :
    (Action.ofOutcome r : Action τ α).Relates R view :=
  silent h fun _ => rfl

theorem bind (h : v.Carries R) {f : α → Action τ β} (ha : a.Relates R view)
    (hf : ∀ x, (f x).Relates R view) : (a >>= f).Relates R view := by
  intro t
  have hfirst := ha t
  rw [Action.bind_apply]
  cases hstep : a t with
  | mk r u =>
    rw [hstep] at hfirst
    cases r with
    | error e => exact hfirst
    | ok x => exact h.trans hfirst (hf x u)

theorem map {f : α → β} (ha : a.Relates R view) : (f <$> a).Relates R view := by
  intro t
  rw [Action.map_apply]
  exact ha t

theorem seqRight {y : β} (ha : a.Relates R view) :
    (a *> Pure.pure y : Action τ β).Relates R view := by
  intro t
  rw [Action.seqRight_pure_apply]
  exact ha t

theorem ite {p : Prop} [Decidable p] (ha : a.Relates R view) (hb : b.Relates R view) :
    (if p then a else b).Relates R view := by
  by_cases hp : p
  · rw [if_pos hp]
    exact ha
  · rw [if_neg hp]
    exact hb

theorem inTransaction {a : Action (Session σ) α} (ha : a.Relates R id) :
    (Transaction.onSession a).Relates R Prod.snd :=
  fun t => ha t.2

theorem inActivity {a : Action (Session σ) α} (ha : a.Relates R id) :
    (Activity.onSession a).Relates R Activity.session :=
  fun x => ha x.session

end Action.Relates

/-! ### Steps of a client -/

namespace Client

variable (c : Client) (h : v.Carries R)

include h

theorem relates_call {m : Wire.Method} (request : Wire.Request m) :
    (Transport.call v m request).Relates R id :=
  fun x => h.call request x

/-- The induction is on the rounds that are left; each of them makes one call. -/
theorem relates_lookupRounds (transaction : Option Bytes) (rounds : Nat) :
    ∀ keys found, (c.lookupRounds v transaction rounds keys found).Relates R id := by
  induction rounds with
  | zero =>
    intro keys found
    cases keys with
    | nil => exact .pure h found
    | cons k keys => exact .ofOutcome h _
  | succ rounds ih =>
    intro keys found
    cases keys with
    | nil => exact .pure h found
    | cons k keys =>
      refine .bind h (relates_call h _) fun response => ?_
      refine .bind h (.ofOutcome h _) fun entities => ?_
      exact ih response.deferred _

theorem relates_lookup (transaction : Option Bytes) (keys : List KeyInput) :
    (c.lookup v transaction keys).Relates R id := by
  refine .bind h (.ofOutcome h _) fun keys => ?_
  exact .bind h (c.relates_lookupRounds h transaction _ _ _) fun found => .pure h _

theorem relates_getAll (s : Schema) (transaction : Option Bytes) (keys : List KeyInput)
    (into : Option Target) : (c.getAll v s transaction keys into).Relates R id :=
  .bind h (c.relates_lookup h transaction keys) fun _ => .ofOutcome h _

/-- The induction is on the rounds that are left; every page is asked for by one call. -/
theorem relates_queryPages (transaction : Option Bytes) (query : Query) (compiled : Wire.Query)
    (rounds : Nat) :
    ∀ cursor, (c.queryPages v transaction query compiled rounds cursor).Relates R id := by
  induction rounds with
  | zero =>
    intro cursor
    exact .ofOutcome h _
  | succ rounds ih =>
    intro cursor
    refine .bind h (relates_call h _) fun page => ?_
    refine .bind h (.ofOutcome h _) fun entities => ?_
    refine .ite (.ofOutcome h _) (.ite (.pure h _) (.ite (.ofOutcome h _) ?_))
    exact .bind h (ih page.endCursor) fun more => .pure h _

theorem relates_runQuery (transaction : Option Bytes) (query : Query) :
    (c.runQuery v transaction query).Relates R id :=
  .bind h (.ofOutcome h _) fun _ => c.relates_queryPages h transaction query _ _ _

theorem relates_putAll (s : Schema) (objects : List Native) :
    (c.putAll v s objects).Relates R id := by
  refine .bind h (.ofOutcome h _) fun ms => .ite (.pure h _) ?_
  exact .bind h (relates_call h _) fun response => .ofOutcome h _

theorem relates_deleteAll (keys : List KeyInput) : (c.deleteAll v keys).Relates R id := by
  refine .bind h (.ofOutcome h _) fun ms => .ite (.pure h _) ?_
  exact .bind h (relates_call h _) fun response => .pure h _

theorem relates_begin (mode : TransactionMode) (previous : Option Bytes) :
    (c.begin v mode previous).Relates R id := by
  refine .bind h (.ofOutcome h _) fun options => ?_
  exact .bind h (relates_call h _) fun id => .pure h _

end Client

/-! ### Calls of a transaction -/

/-- What the transaction keeps account of is no concern of the session. -/
theorem Transaction.relates_requireActive (h : v.Carries R) (operation : String) :
    (requireActive operation : Step σ Transaction).Relates R Prod.snd := by
  refine .silent h fun t => ?_
  rw [requireActive]
  split <;> rfl

theorem Transaction.relates_stageDeletions (h : v.Carries R) (c : Client) (keys : List KeyInput) :
    (stageDeletions c keys : Step σ Unit).Relates R Prod.snd := by
  induction keys with
  | nil => exact .pure h ()
  | cons k rest ih =>
    refine .bind h (.ofOutcome h _) fun m => ?_
    exact .bind h (.silent h fun _ => rfl) fun _ => ih

theorem Transaction.Call.relates (c : Client) (s : Schema) (h : v.Carries R) (call : Call) :
    (call.perform c v s).Relates R Prod.snd := by
  have hactive (operation : String) := Transaction.relates_requireActive h operation
  have hread (ks : List KeyInput) (into : Option Target) :
      (Transaction.getAll c v s ks into).Relates R Prod.snd :=
    .bind h (hactive _) fun t => (c.relates_getAll h s _ ks into).inTransaction
  have hwrite (ns : List Native) : (Transaction.putAll c s ns : Step σ Unit).Relates R Prod.snd :=
    .bind h (hactive _) fun _ => .bind h (.ofOutcome h _) fun _ => .silent h fun _ => rfl
  have hdelete (ks : List KeyInput) :
      (Transaction.deleteAll c ks : Step σ Unit).Relates R Prod.snd :=
    .bind h (hactive _) fun _ => relates_stageDeletions h c ks
  have hfinish (state : TransactionState) :
      (Transaction.finish state : Step σ Unit).Relates R Prod.snd := .silent h fun _ => rfl
  cases call with
  | get k into => exact .map (.bind h (hread [k] into) fun _ => .pure h _)
  | getAll ks into => exact .map (hread ks into)
  | query q =>
    exact .map (.bind h (hactive _) fun t => (c.relates_runQuery h _ q).inTransaction)
  | put n => exact .seqRight (hwrite [n])
  | putAll ns => exact .seqRight (hwrite ns)
  | delete k => exact .seqRight (hdelete [k])
  | deleteAll ks => exact .seqRight (hdelete ks)
  | commit =>
    refine .map (.bind h (hactive _) fun t => ?_)
    refine .bind h (Client.relates_call h _).inTransaction fun response => ?_
    exact .bind h (.ofOutcome h _) fun keys => .bind h (hfinish _) fun _ => .pure h _
  | rollback =>
    refine .seqRight (.bind h (hactive _) fun t => ?_)
    exact .bind h (Client.relates_call h _).inTransaction fun _ => hfinish _

/-! ### Operations -/

namespace Activity

variable {c : Client} {s : Schema}

/-- **What every call makes of a session, every operation makes of it** that is not on the
connection. -/
theorem relates_perform (h : v.Carries R) (op : Operation) (hop : op.isConnection = false) :
    (perform c v s op).Relates R Activity.session := by
  cases hcall : op.call? with
  | some named =>
    obtain ⟨i, call⟩ := named
    obtain rfl := Operation.eq_operation hcall
    intro x
    rw [Transaction.Call.perform_operation]
    cases ht : x.begun[i]? with
    | none =>
      rw [onTransaction_of_none _ ht]
      exact h.refl _
    | some t =>
      rw [onTransaction_of_some _ ht]
      exact call.relates c s h (t, x.session)
  | none =>
    cases op with
    | connect | close | openChannel | closeChannel => cases hop
    | begin mode previous =>
      refine .map (.bind h (c.relates_begin h mode previous).inActivity fun t => ?_)
      exact .bind h (.silent h fun _ => rfl) fun _ => .pure h _
    | get i k into =>
      cases i with
      | some i => cases hcall
      | none =>
        have hget := Action.Relates.bind h (c.relates_getAll h s none [k] into) fun ns =>
          .pure h ns.head?
        exact .map hget.inActivity
    | getAll i ks into =>
      cases i with
      | some i => cases hcall
      | none => exact .map (c.relates_getAll h s none ks into).inActivity
    | query i q =>
      cases i with
      | some i => cases hcall
      | none => exact .map (c.relates_runQuery h none q).inActivity
    | put i n =>
      cases i with
      | some i => cases hcall
      | none =>
        have hput := Action.Relates.bind h (c.relates_putAll h s [n]) fun ks =>
          .pure h ks.head?.join
        exact .map hput.inActivity
    | putAll i ns =>
      cases i with
      | some i => cases hcall
      | none => exact .map (c.relates_putAll h s ns).inActivity
    | delete i k =>
      cases i with
      | some i => cases hcall
      | none => exact .seqRight (c.relates_deleteAll h [k]).inActivity
    | deleteAll i ks =>
      cases i with
      | some i => cases hcall
      | none => exact .seqRight (c.relates_deleteAll h ks).inActivity
    | commit i | rollback i => cases hcall
    | inspect i =>
      intro x
      rw [perform_inspect]
      exact h.refl _

end Activity

end EntityStore
