import EntityStore.Error

/-!
# Keys

A key names an entity by its kind and its identifier, below an optional parent key. The identifier
is absent until the service allocates one.

* `Key.make` — the key with given parts; a key and its ancestors share one namespace;
* `Key.withId`, `Key.withParent`, `Key.withNamespace`, `Key.markNew`, `Key.markDeleted` — keys with
  one part changed;
* `Key.path` — the keys from the root down;
* `Key.same` — equality, which does not look at the marks;
* `Key.text` — the written path.
-/

namespace EntityStore

/-- An identifier: a number that fits in 64 bits or a name. -/
inductive KeyId
  | number (n : Int64)
  | name (s : String)
  deriving DecidableEq

/-- A step of a path: a kind, an identifier once there is one, and two marks that say how the entity
is to be written. -/
structure Segment where
  kind : String
  id : Option KeyId
  isNew : Bool
  isDeleted : Bool
  deriving DecidableEq

/-- A key: a segment with its namespace, below a parent key or not. -/
inductive Key
  | root (namespace? : Option String) (segment : Segment)
  | child (parent : Key) (namespace? : Option String) (segment : Segment)
  deriving DecidableEq

/-- What is offered as an identifier. -/
inductive KeyIdInput
  | absent
  | number (n : Int)
  | name (s : String)
  | other (type : String)
  deriving DecidableEq

/-- Whether an integer fits in 64 bits. -/
def fitsInt64 (n : Int) : Bool :=
  -9223372036854775808 ≤ n && n ≤ 9223372036854775807

namespace KeyIdInput

/-- The identifier that is meant, if it is one. -/
def check : KeyIdInput → Outcome (Option KeyId)
  | absent => .ok none
  | number n =>
    if fitsInt64 n then .ok (some (.number (.ofInt n))) else .error (.value (.keyIdRange n))
  | name s => .ok (some (.name s))
  | other type => .error (.type (.keyId type))

end KeyIdInput

/-- What is offered where a key belongs. -/
inductive KeyInput
  | key (k : Key)
  | other
  deriving DecidableEq

/-- The key that is offered. Anything else lacks the parts of a key. -/
def KeyInput.check : KeyInput → Outcome Key
  | key k => .ok k
  | other => .error .missingAttribute

/-- A namespace, where the empty text stands for none. -/
def normalizeNamespace (ns : Option String) : Option String :=
  ns.filter (· != "")

namespace Key

/-! ### Parts -/

/-- The last segment of the path. -/
def segment : Key → Segment
  | root _ s | child _ _ s => s

/-- The namespace. -/
def namespace? : Key → Option String
  | root ns _ | child _ ns _ => ns

/-- The parent key. -/
def parent? : Key → Option Key
  | root _ _ => none
  | child p _ _ => some p

/-- The kind of the entity. -/
def kind (k : Key) : String := k.segment.kind

/-- The identifier. -/
def id (k : Key) : Option KeyId := k.segment.id

/-- Whether the entity is to be inserted even though the key is complete. -/
def isNew (k : Key) : Bool := k.segment.isNew

/-- Whether a transaction that writes the entity deletes it. -/
def isDeleted (k : Key) : Bool := k.segment.isDeleted

/-- Whether the identifier is missing. -/
def isIncomplete (k : Key) : Bool := k.id.isNone

/-- The ancestors, the nearest first. -/
def ancestors : Key → List Key
  | root _ _ => []
  | child p _ _ => p :: ancestors p

/-- The keys from the root down to this one. -/
def path (k : Key) : List Key :=
  (k :: k.ancestors).reverse

/-! ### Construction -/

/-- The key and its ancestors in a namespace. -/
def renamespace (ns : Option String) : Key → Key
  | root _ s => root ns s
  | child p _ s => child (renamespace ns p) ns s

/-- A segment below an optional parent. The key keeps its namespace and gives it to its ancestors;
without one it takes that of its parent. -/
def attach (parent : Option Key) (ns : Option String) (s : Segment) : Key :=
  match parent, ns with
  | none, ns => root ns s
  | some p, none => child p p.namespace? s
  | some p, some n =>
    child (if p.namespace? == some n then p else renamespace (some n) p) (some n) s

/-- The key with given parts. -/
def make (kind : String) (id : KeyIdInput) (parent : Option Key) (ns : Option String)
    (isNew isDeleted : Bool) : Outcome Key :=
  if kind == "" then .error (.value .emptyKeyKind)
  else do
    let id ← id.check
    return attach parent (normalizeNamespace ns) ⟨kind, id, isNew, isDeleted⟩

/-- The key with given parts, below what is offered as a parent. The parent is looked at last. -/
def makeBelow (kind : String) (id : KeyIdInput) (parent : Option KeyInput) (ns : Option String)
    (isNew isDeleted : Bool) : Outcome Key := do
  let alone ← make kind id none ns isNew isDeleted
  match parent with
  | none => return alone
  | some p => return attach (some (← p.check)) alone.namespace? alone.segment

/-- The key with another identifier. -/
def withId (k : Key) (id : KeyIdInput) : Outcome Key :=
  make k.kind id k.parent? k.namespace? k.isNew k.isDeleted

/-- The key below another parent, or below none. -/
def withParent (k : Key) (parent : Option Key) : Key :=
  attach parent k.namespace? k.segment

/-- The key and its ancestors in another namespace. -/
def withNamespace (k : Key) (ns : Option String) : Key :=
  renamespace (normalizeNamespace ns) k

/-- The key marked for an insertion. -/
def markNew (k : Key) : Key :=
  attach k.parent? k.namespace? { k.segment with isNew := true }

/-- The key marked for deletion. -/
def markDeleted (k : Key) : Key :=
  attach k.parent? k.namespace? { k.segment with isDeleted := true }

/-! ### Equality and text -/

/-- Whether two keys agree in kind, identifier, namespace and parent. -/
def same : Key → Key → Bool
  | root ns s, root ns' s' => s.kind == s'.kind && s.id == s'.id && ns == ns'
  | child p ns s, child p' ns' s' =>
    s.kind == s'.kind && s.id == s'.id && same p p' && ns == ns'
  | _, _ => false

/-- The key without its marks. -/
def unmarked : Key → Key
  | root ns s => root ns ⟨s.kind, s.id, false, false⟩
  | child p ns s => child (unmarked p) ns ⟨s.kind, s.id, false, false⟩

/-- An identifier as it stands in a written path. -/
def idText : Option KeyId → String
  | none => "?"
  | some (.number n) => toString n.toInt
  | some (.name s) => s

/-- A segment as it stands in a written path. -/
def segmentText (k : Key) : String :=
  k.kind ++ ":" ++ idText k.id

/-- The written path, behind the namespace where there is one. -/
def text (k : Key) : String :=
  let steps := "/".intercalate (k.path.map segmentText)
  match k.namespace? with
  | some ns => if ns == "" then steps else ns ++ "|" ++ steps
  | none => steps

end Key

/-- The number of keys that are pairwise different. -/
def countDistinct (keys : List Key) : Nat :=
  (keys.foldl (fun seen k => if seen.any (k.same ·) then seen else k :: seen) []).length

end EntityStore
