import EntityStore.Convert.Into
import EntityStore.Wire.Value

/-!
# Queries

A query selects entities of one kind. Every builder gives a new query; filters and orderings are
added, all else is replaced.

* `Query.make` — the query for a kind;
* `Query.limit`, `Query.offset`, `Query.filter`, … — the builders;
* `Filter.make`, `Filter.hasAncestor` — conditions;
* `Query.equal` — equality of all parts;
* `Query.compile` — the message for a query;
* `Query.form` — the written form.
-/

namespace EntityStore

/-! ### Conditions and orderings -/

/-- The comparisons of a filter. -/
abbrev Operator := Wire.Operator

/-- The directions of an ordering. -/
abbrev Direction := Wire.Direction

/-- The sign of a comparison. -/
def Wire.Operator.sign : Operator → String
  | .equal => "="
  | .notEqual => "!="
  | .lessThan => "<"
  | .lessThanOrEqual => "<="
  | .greaterThan => ">"
  | .greaterThanOrEqual => ">="
  | .isIn => "in"
  | .notIn => "not_in"
  | .hasAncestor => "has_ancestor"

/-- The name of a comparison in messages. -/
def Wire.Operator.name : Operator → String
  | .equal => "EQUAL"
  | .notEqual => "NOT_EQUAL"
  | .lessThan => "LESS_THAN"
  | .lessThanOrEqual => "LESS_THAN_OR_EQUAL"
  | .greaterThan => "GREATER_THAN"
  | .greaterThanOrEqual => "GREATER_THAN_OR_EQUAL"
  | .isIn => "IN"
  | .notIn => "NOT_IN"
  | .hasAncestor => "HAS_ANCESTOR"

/-- The sign of a direction. -/
def Wire.Direction.sign : Direction → String
  | .ascending => "asc"
  | .descending => "desc"

/-- The name of a direction in messages. -/
def Wire.Direction.name : Direction → String
  | .ascending => "ASCENDING"
  | .descending => "DESCENDING"

/-- A condition on a property. -/
structure Filter where
  property : String
  operator : Operator
  value : Value

/-- An ordering by a property. -/
structure Order where
  property : String
  direction : Direction
  deriving DecidableEq

/-- The property that stands for the key of an entity. -/
def keyProperty : String := "__key__"

namespace Filter

/-- The condition that compares a property with an object. -/
def make (s : Schema) (property : String) (operator : Operator) (n : Native) : Outcome Filter :=
  (intoValue s n).map (⟨property, operator, ·⟩)

/-- The condition that an entity lies below a key. -/
def hasAncestor (k : Key) : Filter :=
  ⟨keyProperty, .hasAncestor, .key k⟩

/-- Whether two conditions are equal. -/
def equal (c : Comparison) (a b : Filter) : Bool :=
  a.property == b.property && a.operator == b.operator && a.value.equal c b.value

/-- The written form. -/
def form (f : Filter) : String :=
  "Filter(property_name=" ++ Text.quoted f.property ++ ", operator=<FilterOperator." ++
    f.operator.name ++ ": " ++ Text.quoted f.operator.sign ++ ">, value=" ++ f.value.form ++ ")"

end Filter

/-- The written form of an ordering. -/
def Order.form (o : Order) : String :=
  "Order(property_name=" ++ Text.quoted o.property ++ ", direction=<Direction." ++
    o.direction.name ++ ": " ++ Text.quoted o.direction.sign ++ ">)"

/-! ### Queries and their builders -/

/-- A query over the entities of one kind. -/
structure Query where
  kind : String
  isEventual : Bool
  isKeysOnly : Bool
  skip : Nat
  max? : Option Nat
  partition : Option String
  projections : List String
  distinct : List String
  ordering : List Order
  filters : List Filter
  cursor? : Option Bytes

namespace Query

/-- The query for all entities of a kind. -/
def make (kind : String) : Outcome Query :=
  if kind == "" then .error (.value .emptyQueryKind)
  else .ok ⟨kind, false, false, 0, none, none, [], [], [], [], none⟩

/-- Results may be slightly out of date. -/
def eventuallyConsistent (q : Query) : Query := { q with isEventual := true }

/-- Only keys are fetched, unless properties are projected. -/
def keysOnly (q : Query) : Query := { q with isKeysOnly := true }

/-- So many results are skipped. -/
def offset (q : Query) (n : Int) : Outcome Query :=
  if n < 0 then .error (.value (.negativeOffset n)) else .ok { q with skip := n.toNat }

/-- At most so many results are returned. -/
def limit (q : Query) (n : Int) : Outcome Query :=
  if n < 0 then .error (.value (.negativeLimit n)) else .ok { q with max? := some n.toNat }

/-- The query with one more condition. -/
def filter (q : Query) (f : Filter) : Query := { q with filters := q.filters ++ [f] }

/-- The query below an ancestor. -/
def ancestor (q : Query) (k : Key) : Query := q.filter (.hasAncestor k)

/-- The query in a namespace; the empty one stands for none. -/
def inNamespace (q : Query) (ns : String) : Query :=
  { q with partition := normalizeNamespace (some ns) }

/-- Only these properties are fetched. -/
def project (q : Query) (properties : List String) : Query := { q with projections := properties }

/-- Results are distinct in these properties. -/
def distinctOn (q : Query) (properties : List String) : Query := { q with distinct := properties }

/-- The query with one more ordering. -/
def order (q : Query) (o : Order) : Query := { q with ordering := q.ordering ++ [o] }

/-- The query from a cursor on. -/
def cursor (q : Query) (c : Bytes) : Query := { q with cursor? := some c }

/-- Whether two queries agree in all parts other than their conditions. -/
def agrees (a b : Query) : Bool :=
  a.kind == b.kind && a.isEventual == b.isEventual && a.isKeysOnly == b.isKeysOnly &&
    a.skip == b.skip && a.max? == b.max? && a.partition == b.partition &&
    a.projections == b.projections && a.distinct == b.distinct && a.ordering == b.ordering &&
    a.cursor? == b.cursor?

/-- Whether two queries agree in all parts. -/
def equal (a b : Query) : Bool :=
  agrees a b && a.filters.isEqv b.filters (Filter.equal .apart)

/-- Whether two queries agree that may hold the same objects. Each filter is given with the number
of the step that made it; filters of one step are shared. -/
def equalShared (a b : Query) (madeA madeB : List Nat) : Bool :=
  agrees a b && (a.filters.zip madeA).isEqv (b.filters.zip madeB) fun f g =>
    f.1.equal (if f.2 == g.2 then .shared else .apart) g.1

/-! ### The message -/

/-- The properties that are projected: the key where nothing else is fetched. -/
def effectiveProjection (q : Query) : List String :=
  if q.projections.isEmpty && q.isKeysOnly then [keyProperty] else q.projections

/-- The messages for conditions. -/
def compileFilters (project : String) : List Filter → Outcome (List Wire.PropertyFilter)
  | [] => .ok []
  | f :: rest =>
    match f.value.encode project false with
    | .error e => .error e
    | .ok v => (compileFilters project rest).map (⟨f.property, f.operator, v⟩ :: ·)

/-- A number as a field of 32 bits. -/
def field32 (n : Nat) : Outcome Int32 :=
  if n ≤ 2147483647 then .ok (.ofInt n) else .error (.value (.fieldRange n))

/-- The message for a query of a project. -/
def compile (project : String) (q : Query) : Outcome Wire.Query := do
  let filters ← compileFilters project q.filters
  let offset ← field32 q.skip
  let limit ← match q.max? with
    | none => pure none
    | some n => some <$> field32 n
  return {
    projection := q.effectiveProjection
    kind := [q.kind]
    filters := filters
    order := q.ordering.map fun o => (o.property, o.direction)
    distinctOn := q.distinct
    startCursor := q.cursor?.getD []
    offset := offset
    limit := limit }

/-! ### The written form -/

/-- The written form. -/
def form (q : Query) : String :=
  let partition := match q.partition with
    | some ns => ["namespace=" ++ Text.quoted ns]
    | none => []
  let filters := if q.filters.isEmpty then []
    else ["filters=" ++ Text.bracketed "[" "]" (q.filters.map Filter.form)]
  let ordering := if q.ordering.isEmpty then []
    else ["ordering=" ++ Text.bracketed "[" "]" (q.ordering.map Order.form)]
  let limit := match q.max? with
    | some n => ["limit=" ++ toString n]
    | none => []
  let offset := if q.skip == 0 then [] else ["offset=" ++ toString q.skip]
  Text.bracketed "Query(" ")"
    ([Text.quoted q.kind] ++ partition ++ filters ++ ordering ++ limit ++ offset)

end Query

end EntityStore
