import EntityStore.Proofs.Mutation
import EntityStore.Proofs.Transaction.Calls
import EntityStore.Proofs.Transport

/-!
# Commits that are answered

A transaction ends with a commit whose answer is understood. Nothing is sent for it from then on. An
answer that is not understood leaves the transaction open, and the next commit is sent again.

* `Transaction.commit_of_fits`, `Transaction.commit_of_not_fits` — a commit that is answered;
* `Transaction.commits_once` — which answers keep a transaction from being committed again.
-/

namespace EntityStore

variable {σ : Type} {c : Client} {v : Service σ} {s : Schema}

namespace Transaction

variable {t : Transaction} {x : Session σ} {response : Wire.CommitResponse}

/-! ### Answers -/

/-- A commit ends the transaction if the answer fits the mutations. -/
theorem commit_of_fits (h : t.state = .active)
    (hanswered : (c.commit v (some t.id) t.staged x).1 = .ok response)
    (hfits : response.Fits (t.staged.map (·.kind))) :
    (commit c v (t, x)).2 = (⟨t.id, .committed, []⟩, (c.commit v (some t.id) t.staged x).2) := by
  obtain ⟨keys, hkeys⟩ := (Mutation.exists_keys_iff _ _).mpr hfits
  rw [commit_of_answered h hanswered, hkeys]

/-- A commit fails if the answer does not fit, and the transaction stays open. -/
theorem commit_of_not_fits (h : t.state = .active)
    (hanswered : (c.commit v (some t.id) t.staged x).1 = .ok response)
    (hfits : ¬ response.Fits (t.staged.map (·.kind))) :
    ∃ e, commit c v (t, x) = (.error e, t, (c.commit v (some t.id) t.staged x).2) := by
  rw [← Mutation.exists_keys_iff] at hfits
  rw [commit_of_answered h hanswered]
  cases hkeys : Mutation.keys response (t.staged.map (·.kind)) with
  | error e => exact ⟨e, rfl⟩
  | ok keys => exact absurd ⟨keys, hkeys⟩ hfits

namespace Call

theorem perform_commit : (commit.perform c v s (t, x)).2 = (Transaction.commit c v (t, x)).2 := by
  rw [perform, Action.map_apply]

end Call

/-! ### Runs -/

/-- The request that commits a transaction. -/
def commitRequest (c : Client) (t : Transaction) : (m : Wire.Method) × Wire.Request m :=
  ⟨.commit, Wire.CommitRequest.mk c.projectId .transactional (some t.id)
    (t.staged.map (·.message))⟩

/-- The request of a commit that is answered has been sent. -/
theorem requests_of_answered
    (hanswered : (c.commit v (some t.id) t.staged x).1 = .ok response) :
    (c.commit v (some t.id) t.staged x).2.requests = x.requests ++ [commitRequest c t] :=
  Transport.requests_call_of_ok _ hanswered

/-- A transaction that stays open after such a commit sends everything again with the next one. -/
theorem requests_commit_again (h : t.state = .active)
    (hanswered : (c.commit v (some t.id) t.staged x).1 = .ok response)
    (hsend : (c.commit v (some t.id) t.staged x).2.CanSend v) :
    (commit c v (t, (c.commit v (some t.id) t.staged x).2)).2.2.requests =
      x.requests ++ [commitRequest c t, commitRequest c t] := by
  rw [session_commit h]
  refine (Transport.requests_call_of_canSend _ hsend).trans ?_
  rw [requests_of_answered hanswered, List.append_assoc]
  rfl

/-- A run goes on with what a commit leaves behind. -/
theorem run_commit {start : Transaction × Session σ} {earlier : List Call}
    (hrun : run c v s earlier start = (t, x)) (later : List Call) :
    run c v s (earlier ++ .commit :: later) start = run c v s later (commit c v (t, x)).2 := by
  rw [run_append, hrun, run_cons, Call.perform_commit]

/-- **A transaction is committed at most once, if its answer is understood.** After any calls, let a
commit of the open transaction be answered. Exactly if the answer fits the mutations, the
transaction has ended whatever is called later, and nothing more is sent for it. If the answer does
not fit, the commit fails, the transaction stays as it was, and a further commit sends everything
again. -/
theorem commits_once {start : Transaction × Session σ} (earlier : List Call)
    (hrun : run c v s earlier start = (t, x)) (h : t.state = .active)
    (hanswered : (c.commit v (some t.id) t.staged x).1 = .ok response) :
    (response.Fits (t.staged.map (·.kind)) ↔ ∀ later,
      (run c v s (earlier ++ .commit :: later) start).1.state ≠ .active ∧
      (run c v s (earlier ++ .commit :: later) start).2.requests =
        x.requests ++ [commitRequest c t]) ∧
    (¬ response.Fits (t.staged.map (·.kind)) →
      (∃ e, (Call.commit.perform c v s (t, x)).1 = .error e) ∧
      (run c v s (earlier ++ [.commit]) start).1 = t ∧
      ((run c v s (earlier ++ [.commit]) start).2.CanSend v →
        (run c v s (earlier ++ [.commit, .commit]) start).2.requests =
          x.requests ++ [commitRequest c t, commitRequest c t])) := by
  have hopen (hfits : ¬ response.Fits (t.staged.map (·.kind))) :
      run c v s (earlier ++ [.commit]) start = (t, (c.commit v (some t.id) t.staged x).2) := by
    obtain ⟨e, he⟩ := commit_of_not_fits h hanswered hfits
    rw [run_commit hrun, he]
    rfl
  refine ⟨⟨?_, ?_⟩, ?_⟩
  · intro hfits later
    rw [run_commit hrun, commit_of_fits h hanswered hfits,
      run_of_ended (t := ⟨t.id, .committed, []⟩) nofun]
    exact ⟨nofun, requests_of_answered hanswered⟩
  · intro hended
    by_contra hfits
    refine (hended []).1 ?_
    rw [hopen hfits, h]
  · intro hfits
    obtain ⟨e, he⟩ := commit_of_not_fits h hanswered hfits
    refine ⟨⟨e, ?_⟩, by rw [hopen hfits], ?_⟩
    · rw [Call.perform, Action.map_apply, he]
      rfl
    · intro hsend
      rw [hopen hfits] at hsend
      rw [run_commit hrun, he, run_cons, Call.perform_commit]
      exact requests_commit_again h hanswered hsend

/-! ### Two answers -/

/-- A session in which a commit is answered with results, and the next one as well. -/
def committed (results : List (Option Wire.Key)) : Session Script :=
  .playing [⟨.commit, .ok ⟨results⟩⟩, ⟨.commit, .ok ⟨results⟩⟩]

/-- A transaction that deletes a booking. -/
def cancellation : Transaction :=
  ⟨[1], .active, [.delete "p" (.root none ⟨"Booking", some (.name "b"), false, false⟩)]⟩

/-- With a result for the deletion nothing more is sent; without one the deletion is sent again. -/
theorem commits_once_cancellation :
    (run (.ofProject "p") .playing [] [.commit, .commit, .rollback]
        (cancellation, committed [none])).2.requests =
      [commitRequest (.ofProject "p") cancellation] ∧
    (run (.ofProject "p") .playing [] [.commit, .commit]
        (cancellation, committed [])).2.requests =
      [commitRequest (.ofProject "p") cancellation,
        commitRequest (.ofProject "p") cancellation] := by
  have hfits : Wire.CommitResponse.Fits ⟨[none]⟩ (cancellation.staged.map (·.kind)) :=
    ⟨rfl, fun _ hi => absurd hi List.not_mem_nil⟩
  have hunfit : ¬ Wire.CommitResponse.Fits ⟨[]⟩ (cancellation.staged.map (·.kind)) :=
    fun h => absurd h.1 (by decide)
  have hanswered (results : List (Option Wire.Key)) : ((Client.ofProject "p").commit .playing
      (some [1]) cancellation.staged (committed results)).1 = .ok ⟨results⟩ := rfl
  have honce (results : List (Option Wire.Key)) :=
    commits_once (s := []) (t := cancellation) [] rfl rfl (hanswered results)
  exact ⟨(((honce [none]).1.mp hfits) [.commit, .rollback]).2,
    ((honce []).2 hunfit).2.2 ⟨rfl, _, _, rfl⟩⟩

/-- A commit that is answered need not end its transaction, and can be sent again. -/
theorem not_committed_of_answered :
    ¬ ∀ (c : Client) (v : Service Script) (s : Schema) (t : Transaction) (x : Session Script)
      (response : Wire.CommitResponse) (later : List Call), t.state = .active →
      (c.commit v (some t.id) t.staged x).1 = .ok response →
      (run c v s (.commit :: later) (t, x)).1.state ≠ .active ∧
      (run c v s (.commit :: later) (t, x)).2.requests = x.requests ++ [commitRequest c t] := by
  intro hall
  have honce := hall (.ofProject "p") .playing [] cancellation (committed []) ⟨[]⟩ [.commit]
    rfl rfl
  exact absurd (congrArg List.length honce.2) (by decide)

end Transaction

end EntityStore
