import EntityStore.Value

/-!
# Entities

An entity is a key with properties.

* `Entity.equal` — equality of keys and properties;
* `Entity.form` — the written form;
* `Entity.set`, `Entity.remove?`, `Entity.get?` — single properties.
-/

namespace EntityStore

/-- A key with properties, which have distinct names. -/
structure Entity where
  key : Key
  properties : List (String × Value)

namespace Entity

/-- Whether two entities have the same key and equal properties. -/
def equal (c : Comparison) (a b : Entity) : Bool :=
  a.key.same b.key && Value.equal c (.entity a.properties) (.entity b.properties)

/-- The written form. -/
def form (e : Entity) : String :=
  "Entity(key=" ++ e.key.form ++ ", properties=" ++
    Text.bracketed "\x7b" "\x7d" (Value.fieldForms e.properties) ++ ")"

/-- The value of a property. -/
def get? (e : Entity) (name : String) : Option Value :=
  e.properties.lookup name

/-- The value of a property that must be there. -/
def item (e : Entity) (name : String) : Outcome Value :=
  match e.get? name with
  | some v => .ok v
  | none => .error .missingItem

/-- The entity with a property set. -/
def set (e : Entity) (name : String) (v : Value) : Entity :=
  { e with properties := assign name v e.properties }

/-- The entity without a property, which must be there. -/
def remove (e : Entity) (name : String) : Outcome Entity :=
  match e.get? name with
  | some _ => .ok { e with properties := unassign name e.properties }
  | none => .error .missingItem

end Entity

end EntityStore
