import EntityStore.Value

/-!
# Messages of the service

The messages that are exchanged with the service. A field whose presence can be seen is optional,
and a choice between fields is a type with a constructor for each.

* `Wire.Key`, `Wire.Value`, `Wire.Entity` — stored data;
* `Wire.Query`, `Wire.Mutation`, `Wire.ReadOptions` — parts of requests;
* `Wire.Method`, `Wire.Request`, `Wire.Response` — the calls of the service.
-/

namespace EntityStore.Wire

/-! ### Stored data -/

/-- The part of the database that a key lies in. -/
structure Partition where
  projectId : String
  databaseId : String
  namespaceId : String
  deriving DecidableEq

/-- A step of a path: a kind and an identifier, if one is set. -/
structure PathElement where
  kind : String
  id : Option KeyId
  deriving DecidableEq

/-- A key: the path from the root down, in a partition. -/
structure Key where
  partition : Option Partition
  path : List PathElement
  deriving DecidableEq

mutual

/-- A value with its flags. -/
inductive Value
  | mk (content : Content) (meaning : Int32) (excluded : Bool)

/-- The variants of a value, and the state in which none is set. -/
inductive Content
  | unset
  | null (code : Int32)
  | boolean (b : Bool)
  | integer (n : Int64)
  | double (d : Double)
  | timestamp (seconds : Int64) (nanos : Int32)
  | key (k : Key)
  | string (s : String)
  | blob (b : Bytes)
  | geoPoint (p : GeoPoint)
  | entity (key : Option Key) (properties : List (String × Value))
  | array (items : List Value)

end

instance : Inhabited Content := ⟨.unset⟩

instance : Inhabited Value := ⟨.mk .unset 0 false⟩

namespace Value

/-- The variant. -/
def content : Value → Content
  | mk c _ _ => c

/-- The meaning that an older interface gave the value. -/
def meaning : Value → Int32
  | mk _ m _ => m

/-- Whether the value is kept out of all indexes. -/
def excluded : Value → Bool
  | mk _ _ x => x

end Value

/-- An entity. -/
structure Entity where
  key : Option Key
  properties : List (String × Value)
  deriving Inhabited

/-! ### Parts of requests -/

/-- The comparisons of a filter. -/
inductive Operator
  | equal | notEqual | lessThan | lessThanOrEqual | greaterThan | greaterThanOrEqual | isIn | notIn
  | hasAncestor
  deriving DecidableEq

/-- All comparisons. -/
def Operator.all : List Operator :=
  [.equal, .notEqual, .lessThan, .lessThanOrEqual, .greaterThan, .greaterThanOrEqual, .isIn, .notIn,
    .hasAncestor]

/-- The directions of an ordering. -/
inductive Direction
  | ascending | descending
  deriving DecidableEq

/-- A condition on one property. -/
structure PropertyFilter where
  property : String
  operator : Operator
  value : Value

/-- A query. All of its filters have to hold; no filter message is set where there are none. -/
structure Query where
  projection : List String
  kind : List String
  filters : List PropertyFilter
  order : List (String × Direction)
  distinctOn : List String
  startCursor : Bytes
  offset : Int32
  limit : Option Int32

/-- The state of the data that a read sees. -/
inductive ReadOptions
  | strong
  | eventual
  | transaction (id : Bytes)
  deriving DecidableEq

/-- The options of a read: in a transaction its state counts, else the latest or an older one. -/
def ReadOptions.choose (transaction : Option Bytes) (isEventual : Bool) : ReadOptions :=
  match transaction with
  | some id => .transaction id
  | none => if isEventual then .eventual else .strong

/-- A change to one entity. -/
inductive Mutation
  | insert (e : Entity)
  | upsert (e : Entity)
  | delete (k : Key)

/-- The options of a new transaction. -/
inductive TransactionOptions
  | readOnly
  | readWrite (previous : Bytes)
  deriving DecidableEq

/-! ### Calls -/

/-- The calls of the service. -/
inductive Method
  | lookup | runQuery | beginTransaction | commit | rollback
  deriving DecidableEq

/-- All calls. -/
def Method.all : List Method := [.lookup, .runQuery, .beginTransaction, .commit, .rollback]

/-- The name of a call. -/
def Method.name : Method → String
  | lookup => "Lookup"
  | runQuery => "RunQuery"
  | beginTransaction => "BeginTransaction"
  | commit => "Commit"
  | rollback => "Rollback"

/-- The path that a call is sent to. -/
def Method.path (m : Method) : String :=
  "/google.datastore.v1.Datastore/" ++ m.name

/-- A request for entities by key. -/
structure LookupRequest where
  projectId : String
  readOptions : Option ReadOptions
  keys : List Key

/-- A request for the next results of a query. -/
structure RunQueryRequest where
  projectId : String
  partition : Partition
  readOptions : ReadOptions
  query : Query

/-- A request for a new transaction. -/
structure BeginTransactionRequest where
  projectId : String
  options : Option TransactionOptions

/-- How mutations are applied. -/
inductive CommitMode
  | transactional | nonTransactional
  deriving DecidableEq

/-- The name of a mode. -/
def CommitMode.name : CommitMode → String
  | transactional => "TRANSACTIONAL"
  | nonTransactional => "NON_TRANSACTIONAL"

/-- A request to apply mutations, inside of a transaction or not. -/
structure CommitRequest where
  projectId : String
  mode : CommitMode
  transaction : Option Bytes
  mutations : List Mutation

/-- A request to abandon a transaction. -/
structure RollbackRequest where
  projectId : String
  transaction : Bytes

/-- The request of a call. -/
def Request : Method → Type
  | .lookup => LookupRequest
  | .runQuery => RunQueryRequest
  | .beginTransaction => BeginTransactionRequest
  | .commit => CommitRequest
  | .rollback => RollbackRequest

/-- The answer to a lookup. -/
structure LookupResponse where
  found : List Entity
  missing : List Entity
  deferred : List Key

/-- A page of query results. The progress says whether there are more. -/
structure Batch where
  results : List Entity
  endCursor : Bytes
  progress : Int

/-- The answer to a commit: the key of each result that has one. -/
structure CommitResponse where
  results : List (Option Key)

/-- The answer of a call. -/
def Response : Method → Type
  | .lookup => LookupResponse
  | .runQuery => Batch
  | .beginTransaction => Bytes
  | .commit => CommitResponse
  | .rollback => Unit

end EntityStore.Wire
