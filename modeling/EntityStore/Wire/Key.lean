import EntityStore.Wire.Message

/-!
# Keys in messages

* `Key.encode` — the path of a key from its root, in the partition of the project and the namespace;
* `Wire.Key.decode` — the key of a path, each step the parent of the next.
-/

namespace EntityStore

/-- The step of a path for a key. -/
def Key.element (k : Key) : Wire.PathElement :=
  ⟨k.kind, k.id⟩

/-- The message for a key of a project. -/
def Key.encode (project : String) (k : Key) : Wire.Key where
  partition := some ⟨project, "", k.namespace?.getD ""⟩
  path := k.path.map Key.element

namespace Wire.Key

/-- The namespace of the partition, where there is one. -/
def namespace? (k : Wire.Key) : Option String :=
  k.partition.bind fun p => normalizeNamespace (some p.namespaceId)

/-- The key of the remaining steps below a parent. -/
def decodeBelow (ns : Option String) (parent : Option EntityStore.Key) :
    List PathElement → Outcome (Option EntityStore.Key)
  | [] => .ok parent
  | e :: rest =>
    if e.kind == "" then .error (.decode .kindlessKey)
    else decodeBelow ns (some (EntityStore.Key.attach parent ns ⟨e.kind, e.id, false, false⟩)) rest

/-- The key of a message. -/
def decode (k : Wire.Key) : Outcome EntityStore.Key := do
  match ← decodeBelow k.namespace? none k.path with
  | some key => return key
  | none => .error (.decode .emptyKeyPath)

end Wire.Key

end EntityStore
