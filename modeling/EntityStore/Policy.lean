import EntityStore.Value

/-!
# Index exclusion

Every property is indexed unless a policy excludes it. A policy flags properties by kind.

* `Policy.isExcluded`, `Policy.excluded` — the excluded properties of a kind;
* `Policy.excludesAny` — whether any property is excluded;
* `Policy.same` — equality without regard to order.
-/

namespace EntityStore

/-- Flags by kind and property. -/
structure Policy where
  kinds : List (String × List (String × Bool))
  deriving DecidableEq

namespace Policy

/-- The policy that excludes nothing. -/
def empty : Policy := ⟨[]⟩

/-- The policy with given flags. A later flag replaces an earlier one. -/
def ofKinds (kinds : List (String × List (String × Bool))) : Policy :=
  ⟨assignAll (kinds.map fun k => (k.1, assignAll k.2))⟩

/-- The flags of a kind. -/
def flags (p : Policy) (kind : String) : List (String × Bool) :=
  (p.kinds.lookup kind).getD []

/-- Whether a property of a kind is excluded. -/
def isExcluded (p : Policy) (kind property : String) : Bool :=
  ((p.flags kind).lookup property).getD false

/-- The excluded properties of a kind. -/
def excluded (p : Policy) (kind : String) : List String :=
  ((p.flags kind).filter (·.2)).map (·.1)

/-- Whether any property is excluded. -/
def excludesAny (p : Policy) : Bool :=
  p.kinds.any fun k => !(p.excluded k.1).isEmpty

/-- Whether two association lists agree, by a comparison of what they hold. -/
def sameEntries {α : Type} (eq : α → α → Bool) (a b : List (String × α)) : Bool :=
  a.length == b.length && a.all fun e =>
    match b.lookup e.1 with
    | some x => eq e.2 x
    | none => false

/-- Whether two policies have the same flags. -/
def same (p q : Policy) : Bool :=
  sameEntries (sameEntries (· == ·)) p.kinds q.kinds

/-- The written form of the flags of a kind. -/
def flagsForm (flags : List (String × Bool)) : String :=
  Text.bracketed "\x7b" "\x7d" (flags.map fun f => Text.quoted f.1 ++ ": " ++ boolText f.2)

/-- The written form. -/
def form (p : Policy) : String :=
  "IndexExcluded(" ++
    Text.bracketed "\x7b" "\x7d"
      (p.kinds.map fun k => Text.quoted k.1 ++ ": " ++ flagsForm k.2) ++ ")"

end Policy

end EntityStore
