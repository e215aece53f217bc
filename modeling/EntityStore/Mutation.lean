import EntityStore.Wire.Entity

/-!
# Mutations

A write is an insertion where the key is new or incomplete, a deletion where a transaction finds the
key marked for it, and else it overwrites or creates.

* `MutationKind.ofKey` — the kind of a write;
* `Mutation.put`, `Mutation.delete` — the mutations for an entity and for a key;
* `Mutation.keys` — the keys that a commit allocated, one place for each write.
-/

namespace EntityStore

/-- The kinds of mutations. -/
inductive MutationKind
  | insert | upsert | delete
  deriving DecidableEq

/-- All kinds. -/
def MutationKind.all : List MutationKind := [.insert, .upsert, .delete]

/-- The name of a kind. -/
def MutationKind.name : MutationKind → String
  | insert => "insert"
  | upsert => "upsert"
  | delete => "delete"

/-- The kind of a write of an entity with this key. The mark for deletion counts in a transaction
only. -/
def MutationKind.ofKey (k : Key) (transactional : Bool) : MutationKind :=
  if transactional && k.isDeleted then delete
  else if k.isNew || k.isIncomplete then insert
  else upsert

/-- A mutation as it is sent, with its kind. -/
structure Mutation where
  kind : MutationKind
  message : Wire.Mutation

namespace Mutation

/-- The mutation that deletes the entity of a key. -/
def delete (project : String) (k : Key) : Mutation :=
  ⟨.delete, .delete (k.encode project)⟩

/-- The mutation that writes an entity. -/
def put (project : String) (policy : Policy) (transactional : Bool) (e : Entity) :
    Outcome Mutation :=
  match MutationKind.ofKey e.key transactional with
  | .delete => .ok (delete project e.key)
  | .insert => (e.encode project policy).map fun m => ⟨.insert, .insert m⟩
  | .upsert => (e.encode project policy).map fun m => ⟨.upsert, .upsert m⟩

/-- The keys of results, for the mutations that are no deletions. -/
def resultKeys : List (Option Wire.Key) → List MutationKind → Outcome (List (Option Key))
  | _ :: results, .delete :: kinds => resultKeys results kinds
  | none :: results, _ :: kinds => (resultKeys results kinds).map (none :: ·)
  | some k :: results, _ :: kinds =>
    match k.decode with
    | .error e => .error e
    | .ok key => (resultKeys results kinds).map (some key :: ·)
  | _, _ => .ok []

/-- The keys that a commit allocated, in the order of the writes. There must be a result for each
mutation. -/
def keys (response : Wire.CommitResponse) (kinds : List MutationKind) :
    Outcome (List (Option Key)) :=
  if response.results.length == kinds.length then resultKeys response.results kinds
  else .error (.decode (.resultCount response.results.length kinds.length))

end Mutation

end EntityStore
