import EntityStore.Proofs.Policy.Document
import EntityStore.Proofs.Transaction.Scope
import EntityStore.Proofs.Wire.Flags

/-!
# From the document to the index flags

Whatever an application does, the entities in the commits that a client sends are those that it has
been given to write, with the flags that the document of the policy lists for their kind.

* `Client.Encodes` — the message that an object is written as;
* `Operation.encodes_of_stages`, `Activity.encodes_of_sent` — where the entities in mutations that
  are staged and in commits that are sent come from;
* `sent_entities_flagged` — the flags of all entities that are sent.
-/

namespace EntityStore

variable {σ : Type} {c : Client} {v : Service σ} {s : Schema}

/-! ### Entities in mutations -/

/-- The entity that a mutation writes, if it writes one. -/
def Wire.Mutation.entity? : Wire.Mutation → Option Wire.Entity
  | insert w | upsert w => some w
  | delete _ => none

/-- An object stands for an entity, which the client encodes as a message. -/
def Client.Encodes (c : Client) (s : Schema) (n : Native) (w : Wire.Entity) : Prop :=
  ∃ e, intoEntity s n = .ok e ∧ e.encode c.projectId c.policy = .ok w

/-- What writes an entity holds its message. -/
theorem Mutation.encode_of_put {project : String} {policy : Policy} {transactional : Bool}
    {e : Entity} {m : Mutation} {w : Wire.Entity}
    (hm : put project policy transactional e = .ok m) (hw : m.message.entity? = some w) :
    e.encode project policy = .ok w := by
  unfold put at hm
  split at hm
  next =>
    obtain rfl := Except.ok.inj hm
    cases hw
  next =>
    obtain ⟨w', hw', rfl⟩ := map_eq_ok hm
    obtain rfl := Option.some.inj hw
    exact hw'
  next =>
    obtain ⟨w', hw', rfl⟩ := map_eq_ok hm
    obtain rfl := Option.some.inj hw
    exact hw'

theorem Client.encodes_of_compilePuts {transactional : Bool} {ns : List Native}
    {ms : List Mutation} (h : c.compilePuts s transactional ns = .ok ms) {m : Mutation}
    (hm : m ∈ ms) {w : Wire.Entity} (hw : m.message.entity? = some w) :
    ∃ n ∈ ns, c.Encodes s n w := by
  obtain ⟨n, hn, hcompiled⟩ := (mem_of_mapM h).mp hm
  obtain ⟨e, he, hput⟩ := bind_eq_ok hcompiled
  exact ⟨n, hn, e, he, Mutation.encode_of_put hput hw⟩

/-- Deletions write no entity. -/
theorem Client.entity?_of_compileDelete {keys : List KeyInput} {ms : List Mutation}
    (h : keys.mapM c.compileDelete = .ok ms) {m : Mutation} (hm : m ∈ ms) :
    m.message.entity? = none := by
  obtain ⟨k, -, hcompiled⟩ := (mem_of_mapM h).mp hm
  obtain ⟨key, -, rfl⟩ := map_eq_ok hcompiled
  rfl

/-! ### Entities in commits -/

/-- An operation stages entities that it is given to write. -/
theorem Operation.encodes_of_stages {op : Operation} {i : Nat} {m : Mutation}
    (hm : m ∈ op.stages c s i) {w : Wire.Entity} (hw : m.message.entity? = some w) :
    ∃ n ∈ op.written, c.Encodes s n w := by
  have hputs {ns : List Native} (h : m ∈ (c.compilePuts s true ns).toOption.getD []) :
      ∃ n ∈ ns, c.Encodes s n w := by
    cases hcompiled : c.compilePuts s true ns with
    | error e =>
      rw [hcompiled] at h
      cases h
    | ok ms =>
      rw [hcompiled] at h
      exact Client.encodes_of_compilePuts hcompiled h hw
  have hdeletions {ks : List KeyInput}
      (h : m ∈ (KeyInput.leading ks).map (Mutation.delete c.projectId)) : False := by
    obtain ⟨k, -, rfl⟩ := List.mem_map.mp h
    cases hw
  cases hcall : op.call? with
  | none =>
    rw [stages, hcall] at hm
    cases hm
  | some named =>
    obtain ⟨j, call⟩ := named
    have hstaged : m ∈ call.stages c s := by
      rw [stages_of_call? hcall] at hm
      by_cases hj : j = i
      · rw [if_pos hj] at hm
        exact hm
      · rw [if_neg hj] at hm
        cases hm
    rw [eq_operation hcall]
    cases call with
    | put n => exact hputs hstaged
    | putAll ns => exact hputs hstaged
    | delete k => exact (hdeletions hstaged).elim
    | deleteAll ks => exact (hdeletions hstaged).elim
    | get _ _ | getAll _ _ | query _ | commit | rollback => cases hstaged

/-- A commit outside of transactions sends entities that its own operation is given to write. -/
theorem Operation.AsksOutside.encodes {op : Operation} {r : Wire.CommitRequest}
    (h : op.AsksOutside c s ⟨.commit, r⟩) {m : Wire.Mutation} (hm : m ∈ r.mutations)
    {w : Wire.Entity} (hw : m.entity? = some w) : ∃ n ∈ op.written, c.Encodes s n w := by
  have hmutation {ms : List Mutation} (hq : c.AsksCommit none ms ⟨.commit, r⟩) :
      ∃ m' ∈ ms, m'.message = m := by
    obtain rfl : r = _ := eq_of_heq (Sigma.mk.inj hq).2
    exact List.mem_map.mp hm
  cases h with
  | lookup hq =>
    obtain ⟨keys, hq⟩ := hq
    cases hq
  | page hq =>
    obtain ⟨compiled, cursor, -, hq⟩ := hq
    cases hq
  | writes hms hq =>
    obtain ⟨m', hm', rfl⟩ := hmutation hq
    exact Client.encodes_of_compilePuts hms hm' hw
  | deletions hms hq =>
    obtain ⟨m', hm', rfl⟩ := hmutation hq
    rw [Client.entity?_of_compileDelete hms hm'] at hw
    cases hw

namespace Activity

/-- **The entities in a commit that is sent have been given to an operation to write.** Outside of
transactions it is the operation that commits, and in a transaction one before. -/
theorem encodes_of_sent {ops : List Operation} {world : σ} {r : Wire.CommitRequest}
    (h : (⟨.commit, r⟩ : Wire.AnyRequest) ∈ (run c v s ops (.start world)).session.requests)
    {m : Wire.Mutation} (hm : m ∈ r.mutations) {w : Wire.Entity} (hw : m.entity? = some w) :
    ∃ op ∈ ops, ∃ n ∈ op.written, c.Encodes s n w := by
  rcases exists_sender ops (.start world) _ h with hstart | ⟨before, op, after, rfl, hasked⟩
  · cases hstart
  cases hop : op.transaction? with
  | none =>
    refine ⟨op, List.mem_append_right before List.mem_cons_self, ?_⟩
    exact (Operation.asks_outside hop hasked).encodes hm hw
  | some i =>
    obtain ⟨call, t, -, ht, hopen, hcall⟩ := Operation.asks_in_transaction hop hasked
    have hwithin : r.mutations = t.staged.map (·.message) :=
      (Transaction.Call.isWithin_of_asks hcall).2.2
    rw [hwithin, (recorded_run before world).staged i t ht hopen] at hm
    obtain ⟨m', hm', rfl⟩ := List.mem_map.mp hm
    obtain ⟨earlier, hearlier, hstages⟩ := List.mem_flatMap.mp hm'
    refine ⟨earlier.1, List.mem_append_left _ ?_, Operation.encodes_of_stages hstages hw⟩
    exact mem_of_mem_trace before _ _ (List.mem_of_mem_filter hearlier)

end Activity

/-- **What the document of a policy lists is what is kept out of the indexes.** If a document whose
keys are texts describes the policy of a client, each entity that the client ever sends to be
inserted or overwritten is one that it has been given to write, and in its message exactly those
nodes have the flag that are no arrays and belong to a property that the document lists as true for
the kind of the entity's own key. Without the flags, the message is the one that is sent if nothing
is excluded. A document that is malformed in any part describes no policy. -/
theorem sent_entities_flagged :
    (∀ (d : Document) (c : Client), d.TextKeyed → Policy.ofDocument d = .ok c.policy →
      ∀ (v : Service σ) (s : Schema) (ops : List Operation) (world : σ) (r : Wire.CommitRequest),
        (⟨.commit, r⟩ : Wire.AnyRequest) ∈
          (Activity.run c v s ops (.start world)).session.requests →
        ∀ m ∈ r.mutations, ∀ w, m.entity? = some w →
          ∃ e, (∃ op ∈ ops, ∃ n ∈ op.written, intoEntity s n = .ok e) ∧
            e.encode c.projectId .empty = .ok w.unflagged ∧
            ∀ p ∈ w.properties, ∀ node ∈ p.2.nodes,
              (node.excluded = true ↔ node.isArray = false ∧
                d.under? ["kind", e.key.kind, "property", p.1] =
                  some (.atom (.boolean true)))) ∧
    ∀ d : Document, (∃ p, Policy.ofDocument d = .ok p) ↔ d.IsPolicy := by
  refine ⟨?_, Policy.exists_ofDocument_iff⟩
  intro d c hkeys hd v s ops world r hr m hm w hw
  obtain ⟨op, hop, n, hn, e, he, hencoded⟩ := Activity.encodes_of_sent hr hm hw
  refine ⟨e, ⟨op, hop, n, hn, he⟩, Entity.unflagged_encode hencoded, ?_⟩
  intro p hp node hnode
  have hflag := Entity.excluded_of_mem_nodes hencoded hp hnode
  rw [hflag, Bool.and_eq_true, Bool.not_eq_true', Policy.isExcluded_iff hkeys hd, and_comm]

/-- A document by which the notes about guests are kept out of the indexes. -/
def notesExcluded : Document :=
  .mapping [(.text "kind", .mapping [(.text "Guest", .mapping [(.text "property",
    .mapping [(.text "notes", .atom (.boolean true)), (.text "name", .atom (.boolean false))])])])]

/-- A guest with notes of several kinds. -/
def notedGuest : Entity :=
  ⟨.root none ⟨"Guest", some (.name "a"), false, false⟩,
    [("name", .string "Ada"),
      ("notes", .array [.wrapped (.string "late"), .entity [("quiet", .boolean true)]])]⟩

/-- The message for the guest. -/
def notedGuestSent : Wire.Entity :=
  ⟨some (notedGuest.key.encode "p"),
    [("name", .plain (.string "Ada") false),
      ("notes", .plain (.array [.plain (.string "late") true,
        .plain (.entity none [("quiet", .plain (.boolean true) true)]) true]) false)]⟩

/-- The client of the document. -/
def notesClient : Client :=
  ⟨"p", Config.ofProject "p", ⟨[("Guest", [("notes", true), ("name", false)])]⟩⟩

/-- The guest is written in a transaction. -/
def checkIn : List Operation :=
  [.connect, .begin .default none, .putAll (some 0) [.entity notedGuest], .commit 0]

/-- The array of notes has no flag, but the notes in it do, and so does what they consist of. -/
theorem sent_entities_flagged_notes :
    notesExcluded.IsPolicy ∧
    ∃ e, (∃ op ∈ checkIn, ∃ n ∈ op.written, intoEntity [] n = .ok e) ∧
      e.encode "p" .empty = .ok notedGuestSent.unflagged ∧
      ∀ p ∈ notedGuestSent.properties, ∀ node ∈ p.2.nodes,
        (node.excluded = true ↔ node.isArray = false ∧
          notesExcluded.under? ["kind", e.key.kind, "property", p.1] =
            some (.atom (.boolean true))) := by
  obtain ⟨hflagged, haccepted⟩ := sent_entities_flagged (σ := Script)
  have hkeys : notesExcluded.TextKeyed := by
    simp [notesExcluded, Document.TextKeyed, Document.TextKeyedEntries]
  have hrequests : (Activity.run notesClient .playing [] checkIn
      (.start Activity.beginnings)).session.requests =
        [⟨.beginTransaction, Wire.BeginTransactionRequest.mk "p" none⟩,
          ⟨.commit, Wire.CommitRequest.mk "p" .transactional (some [1])
            [.upsert notedGuestSent]⟩] := rfl
  refine ⟨(haccepted notesExcluded).mp ⟨notesClient.policy, rfl⟩, ?_⟩
  refine hflagged notesExcluded notesClient hkeys rfl .playing [] checkIn Activity.beginnings
    ⟨"p", .transactional, some [1], [.upsert notedGuestSent]⟩ ?_ (.upsert notedGuestSent)
    List.mem_cons_self notedGuestSent rfl
  rw [hrequests]
  exact List.mem_cons_of_mem _ List.mem_cons_self

end EntityStore
