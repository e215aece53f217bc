import EntityStore.Proofs.Transaction.Calls
import EntityStore.Proofs.Transport

/-!
# Calls that fail

A call that fails leaves its transaction open. Writes are staged all or none, but deletions are
staged one by one: those before the first item that is no key stay.

* `Transaction.Call.stages_eq_nil_iff` — the calls that fail and stage nothing;
* `Transaction.failed_call` — what every call that fails leaves behind.
-/

namespace EntityStore

variable {σ : Type} {c : Client} {v : Service σ} {s : Schema}

namespace Transaction

variable {t : Transaction} {x : Session σ} {e : Error}

namespace Call

theorem stages_of_putAll_failed (ns : List Native) (h : t.state = .active)
    (hfails : ((putAll ns).perform c v s (t, x)).1 = .error e) : (putAll ns).stages c s = [] := by
  rw [outcome_putAll h] at hfails
  rw [stages, map_eq_error hfails]
  rfl

/-- Items whose deletion fails are keys up to the first one that is none. -/
theorem split_of_deleteAll_failed (items : List KeyInput) (h : t.state = .active)
    (hfails : ((deleteAll items).perform c v s (t, x)).1 = .error e) :
    ∃ back, items = (KeyInput.leading items).map .key ++ .other :: back := by
  rw [outcome_deleteAll h] at hfails
  exact KeyInput.exists_split_of_error (map_eq_error hfails)

/-- Only a deletion of several items of which the first one is a key fails and stages something. -/
theorem stages_eq_nil_iff (call : Call) (h : t.state = .active)
    (hfails : (call.perform c v s (t, x)).1 = .error e) :
    call.stages c s = [] ↔ ∀ k rest, call ≠ .deleteAll (.key k :: rest) := by
  cases call with
  | put n => exact iff_of_true (stages_of_putAll_failed (v := v) [n] h hfails) nofun
  | putAll ns => exact iff_of_true (stages_of_putAll_failed ns h hfails) nofun
  | delete item =>
    obtain ⟨back, hsplit⟩ := split_of_deleteAll_failed (v := v) (s := s) [item] h hfails
    cases item with
    | key k => cases hsplit
    | other => exact iff_of_true rfl nofun
  | deleteAll items =>
    rcases items with _ | ⟨k | _, rest⟩
    · exact iff_of_true rfl nofun
    · exact iff_of_false nofun fun hcall => hcall k rest rfl
    · exact iff_of_true rfl nofun
  | get | getAll | query | commit | rollback => exact iff_of_true rfl nofun

end Call

/-- **What a call that fails leaves behind.** The transaction is what it was before, except after a
deletion of several keys whose first item is a key: what comes before the first item that is no key
is staged. -/
theorem failed_call (call : Call) (h : t.state = .active)
    (hfails : (call.perform c v s (t, x)).1 = .error e) :
    ((call.perform c v s (t, x)).2.1 = t ↔ ∀ k rest, call ≠ .deleteAll (.key k :: rest)) ∧
    ∀ items, call = .deleteAll items → ∃ (front : List Key) (back : List KeyInput),
      items = front.map .key ++ .other :: back ∧ (call.perform c v s (t, x)).2.1 =
        { t with staged := t.staged ++ front.map (Mutation.delete c.projectId) } := by
  rw [call.staged_of_stays h (Or.inr ⟨e, hfails⟩)]
  have hunchanged : ({ t with staged := t.staged ++ call.stages c s } : Transaction) = t ↔
      call.stages c s = [] := by
    constructor
    · intro heq
      exact List.append_right_eq_self.mp (congrArg Transaction.staged heq)
    · intro hstages
      rw [hstages, List.append_nil]
  refine ⟨hunchanged.trans (call.stages_eq_nil_iff h hfails), ?_⟩
  rintro items rfl
  obtain ⟨back, hsplit⟩ := Call.split_of_deleteAll_failed items h hfails
  exact ⟨KeyInput.leading items, back, hsplit, rfl⟩

/-- A transaction in which nothing is staged. -/
def untouched : Transaction × Session Script := (⟨[1], .active, []⟩, .playing [])

/-- A file. -/
def fileKey (name : String) : Key := .root none ⟨"File", some (.name name), false, false⟩

/-- A commit that fails changes nothing; a deletion that fails at its second item stages the first
one. -/
theorem failed_call_files :
    (Call.commit.perform (.ofProject "p") .playing [] untouched).2.1 = ⟨[1], .active, []⟩ ∧
      ((Call.deleteAll [.key (fileKey "a"), .other, .key (fileKey "b")]).perform (.ofProject "p")
          .playing [] untouched).2.1 =
        ⟨[1], .active, [Mutation.delete "p" (fileKey "a")]⟩ := by
  refine ⟨(failed_call .commit rfl rfl).1.mpr nofun, ?_⟩
  obtain ⟨front, back, hitems, hafter⟩ := (failed_call (c := .ofProject "p") (v := .playing)
    (s := []) (t := untouched.1) (x := untouched.2)
    (.deleteAll [.key (fileKey "a"), .other, .key (fileKey "b")]) rfl rfl).2 _ rfl
  rcases front with _ | ⟨k, _ | ⟨l, front⟩⟩
  · cases hitems
  · cases hitems
    exact hafter
  · cases hitems

/-- A deletion that fails can change what is staged. -/
theorem not_failed_call_unchanged :
    ¬ ∀ (c : Client) (v : Service Script) (s : Schema) (t : Transaction) (x : Session Script)
      (call : Call) (e : Error), t.state = .active → (call.perform c v s (t, x)).1 = .error e →
      (call.perform c v s (t, x)).2.1 = t := by
  intro hall
  have hunchanged := hall (.ofProject "p") .playing [] untouched.1 untouched.2
    (.deleteAll [.key (fileKey "a"), .other]) .missingAttribute rfl rfl
  exact absurd (congrArg (·.staged.length) hunchanged) (by decide)

end Transaction

end EntityStore
