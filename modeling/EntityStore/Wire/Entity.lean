import EntityStore.Entity
import EntityStore.Policy
import EntityStore.Wire.Value

/-!
# Entities in messages

* `Entity.encode` — the message for an entity, with the flags of the policy for its kind;
* `Wire.Entity.decode` — the entity of a message.
-/

namespace EntityStore

/-- The messages for the properties of an entity of a kind. -/
def Entity.encodeProperties (project : String) (policy : Policy) (kind : String) :
    List (String × Value) → Outcome (List (String × Wire.Value))
  | [] => .ok []
  | (name, v) :: rest =>
    match v.encode project (policy.isExcluded kind name) with
    | .error e => .error e
    | .ok w => (encodeProperties project policy kind rest).map ((name, w) :: ·)

/-- The message for an entity. -/
def Entity.encode (project : String) (policy : Policy) (e : Entity) : Outcome Wire.Entity :=
  (Entity.encodeProperties project policy e.key.kind e.properties).map fun ps =>
    ⟨some (e.key.encode project), ps⟩

/-- The entity of a message. -/
def Wire.Entity.decode (e : Wire.Entity) : Outcome EntityStore.Entity :=
  match e.key with
  | none => .error (.decode .entityWithoutKey)
  | some k => do
    let properties ← Wire.decodeFields e.properties
    let key ← k.decode
    return ⟨key, properties⟩

end EntityStore
