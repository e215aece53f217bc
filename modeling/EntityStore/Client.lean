import EntityStore.Config
import EntityStore.Convert.From
import EntityStore.Convert.Into
import EntityStore.Mutation
import EntityStore.Policy.File
import EntityStore.Query
import EntityStore.Supplier
import EntityStore.Transport

/-!
# Client

A client of the service for one project. Reads go on until the service has nothing left to say,
within a limit of rounds; writes outside of a transaction are committed at once.

* `Client.connect`, `Client.close` — the connection;
* `Client.lookup` — entities by key, asking again for deferred keys;
* `Client.runQuery` — the results of a query, page by page;
* `Client.putAll`, `Client.deleteAll` — writes;
* `Client.make`, `Client.ofEnvironment` — clients from settings.
-/

namespace EntityStore

/-- A project, its configuration and its policy. -/
structure Client where
  projectId : String
  config : Config
  policy : Policy

namespace Client

/-! ### Settings -/

/-- The client of a project. Without a policy, the configuration or, if there is none, the
environment tells where to find one. -/
def make (projectId : String) (policy : Option Policy) (config : Option Config)
    (env : Environment) (files : Files) : Outcome (Client × List Warning) :=
  let c := config.getD (Config.ofProject projectId)
  match policy, config with
  | some p, _ => .ok (⟨projectId, c, p⟩, [])
  | none, some c =>
    match c.indexExcludedPath.filter (· != "") with
    | some path => (Policy.ofFile (files path)).map fun (p, ws) => (⟨projectId, c, p⟩, ws)
    | none => .ok (⟨projectId, c, .empty⟩, [])
  | none, none =>
    (Policy.ofEnvironment env files Policy.variableName).map fun (p, ws) => (⟨projectId, c, p⟩, ws)

/-- The supplier for a configuration: a fixed token for an emulator, else the credentials of the key
file, else those of the surroundings. -/
def supplierOf (c : Config) (keyFile : String → Option Credentials)
    (surroundings : Except String Credentials) : Outcome Supplier :=
  match c.emulatorHost.filter (· != ""), c.credentialsPath.filter (· != "") with
  | some _, _ => .ok .default
  | none, some path => Supplier.ofKeyFile (keyFile path)
  | none, none => Supplier.ofSurroundings surroundings

/-- The client and the supplier that an environment describes. -/
def ofEnvironment (env : Environment) (files : Files) (keyFile : String → Option Credentials)
    (surroundings : Except String Credentials) : Outcome (Client × Supplier × List Warning) := do
  let (config, ws) ← Config.ofEnvironment env
  let supplier ← supplierOf config keyFile surroundings
  let (client, more) ← make config.projectId none (some config) env files
  return (client, supplier, ws ++ more)

/-- The transport of a client. -/
def transport (c : Client) : Transport :=
  ⟨c.config.address, c.config.isSecure, c.config.maxMessageSize⟩

variable {σ : Type}

/-! ### Connection -/

/-- Connects, unless the client is connected. -/
def connect (c : Client) (v : Service σ) : Action (Session σ) Unit := fun s =>
  if s.isConnected then (.ok (), s)
  else match c.transport.openChannel v s with
    | (.ok _, s) => (.ok (), { s with isConnected := true })
    | (.error e, s) =>
      (.error (.failure (.connection ("Failed to connect: " ++ e.text) (some c.config.address))), s)

/-- Closes the connection, if there is one. -/
def close (v : Service σ) : Action (Session σ) Unit := do
  if (← Action.state).isConnected then
    Transport.closeChannel v
    Action.update fun s => { s with isConnected := false }

/-! ### Lookups -/

/-- Entities with a new one, which replaces one with the same key. -/
def collect (e : Entity) : List (Key × Entity) → List (Key × Entity)
  | [] => [(e.key, e)]
  | (k, old) :: rest => if k.same e.key then (k, e) :: rest else (k, old) :: collect e rest

/-- The failure of a lookup that has keys left when no round is. -/
def lookupUnfinished (c : Client) (keys : Nat) : Error :=
  .failure (.roundLimit
    ("Lookup still had " ++ toString keys ++ " deferred keys after " ++
      toString c.config.maxRounds ++ " rounds") "lookup" c.config.maxRounds)

/-- The request for entities. -/
def lookupRequest (c : Client) (transaction : Option Bytes) (keys : List Wire.Key) :
    Wire.LookupRequest :=
  ⟨c.projectId, transaction.map .transaction, keys⟩

/-- All entities found for keys that are still to be asked for, in at most `rounds` rounds. -/
def lookupRounds (c : Client) (v : Service σ) (transaction : Option Bytes) :
    Nat → List Wire.Key → List (Key × Entity) → Action (Session σ) (List (Key × Entity))
  | _, [], found => pure found
  | 0, keys, _ => Action.ofOutcome (.error (c.lookupUnfinished keys.length))
  | rounds + 1, keys, found => do
    let response ← Transport.call v .lookup (c.lookupRequest transaction keys)
    let entities ← Action.ofOutcome (response.found.mapM Wire.Entity.decode)
    let found := entities.foldl (fun f e => collect e f) found
    lookupRounds c v transaction rounds response.deferred found

/-- The entities for keys in the order of the keys. Each entity is taken once. -/
def inOrder : List Key → List (Key × Entity) → List Entity
  | [], _ => []
  | k :: keys, found =>
    match found.find? (·.1.same k) with
    | some (_, e) => e :: inOrder keys (found.filter fun f => !f.1.same k)
    | none => inOrder keys found

/-- The entities for keys. -/
def lookup (c : Client) (v : Service σ) (transaction : Option Bytes) (keys : List KeyInput) :
    Action (Session σ) (List Entity) := do
  let keys ← Action.ofOutcome (keys.mapM KeyInput.check)
  let found ← lookupRounds c v transaction c.config.maxRounds (keys.map (·.encode c.projectId)) []
  return inOrder keys found

/-! ### Queries -/

/-- What a page can report, by code: nothing, that it is not the last one, that the limit is
reached, that there are no more results, and that the end cursor is reached. -/
def progressNames : List String :=
  ["MORE_RESULTS_TYPE_UNSPECIFIED", "NOT_FINISHED", "MORE_RESULTS_AFTER_LIMIT", "NO_MORE_RESULTS",
    "MORE_RESULTS_AFTER_CURSOR"]

/-- Whether a code is one of them. -/
def isKnownProgress (code : Int) : Bool := 0 ≤ code && code < progressNames.length

/-- The code of a page that is not the last one. -/
def unfinished : Int := 1

/-- The failure of a query that is not finished when no round is left. -/
def queryUnfinished (c : Client) (q : Query) : Error :=
  .failure (.roundLimit
    ("Query on " ++ q.kind ++ " unfinished after " ++ toString c.config.maxRounds ++ " rounds")
    "run_query" c.config.maxRounds)

/-- The failure of a query whose cursor stands still. -/
def queryStalled (q : Query) (rounds : Nat) : Error :=
  .failure (.roundLimit
    ("Query on " ++ q.kind ++ " reported unfinished results without advancing its cursor")
    "run_query" rounds)

/-- The request for the page of a query behind a cursor. -/
def pageRequest (c : Client) (transaction : Option Bytes) (q : Query) (compiled : Wire.Query)
    (cursor : Bytes) : Wire.RunQueryRequest where
  projectId := c.projectId
  partition := ⟨c.projectId, "", q.partition.getD ""⟩
  readOptions := .choose transaction q.isEventual
  query := { compiled with startCursor := cursor }

/-- The pages of a query from a cursor on, in at most `rounds` rounds. -/
def queryPages (c : Client) (v : Service σ) (transaction : Option Bytes) (q : Query)
    (compiled : Wire.Query) : Nat → Bytes → Action (Session σ) (List Entity)
  | 0, _ => Action.ofOutcome (.error (c.queryUnfinished q))
  | rounds + 1, cursor => do
    let page ← Transport.call v .runQuery (c.pageRequest transaction q compiled cursor)
    let entities ← Action.ofOutcome (page.results.mapM Wire.Entity.decode)
    if !isKnownProgress page.progress then
      Action.ofOutcome (.error (.decode (.unknownProgress page.progress)))
    else if page.progress != unfinished then return entities
    else if page.endCursor == cursor then
      Action.ofOutcome (.error (queryStalled q (c.config.maxRounds - rounds)))
    else
      let more ← queryPages c v transaction q compiled rounds page.endCursor
      return entities ++ more

/-- The results of a query. -/
def runQuery (c : Client) (v : Service σ) (transaction : Option Bytes) (q : Query) :
    Action (Session σ) (List Entity) := do
  let compiled ← Action.ofOutcome (q.compile c.projectId)
  queryPages c v transaction q compiled c.config.maxRounds compiled.startCursor

/-! ### Writes -/

/-- The request that applies mutations, in a transaction or at once. The mode says which. -/
def commitRequest (c : Client) (transaction : Option Bytes) (mutations : List Mutation) :
    Wire.CommitRequest where
  projectId := c.projectId
  mode :=
    match transaction with
    | some _ => .transactional
    | none => .nonTransactional
  transaction := transaction
  mutations := mutations.map (·.message)

/-- Sends mutations, in a transaction or at once. -/
def commit (c : Client) (v : Service σ) (transaction : Option Bytes) (mutations : List Mutation) :
    Action (Session σ) Wire.CommitResponse :=
  Transport.call v .commit (c.commitRequest transaction mutations)

/-- The mutations that write objects, each of which stands for an entity. -/
def compilePuts (c : Client) (s : Schema) (transactional : Bool) (objects : List Native) :
    Outcome (List Mutation) :=
  objects.mapM fun n => do Mutation.put c.projectId c.policy transactional (← intoEntity s n)

/-- The mutation that deletes what has a key. -/
def compileDelete (c : Client) (k : KeyInput) : Outcome Mutation :=
  k.check.map (Mutation.delete c.projectId)

/-- Writes entities in one commit. The result has the allocated key of each, if there is one. -/
def putAll (c : Client) (v : Service σ) (s : Schema) (objects : List Native) :
    Action (Session σ) (List (Option Key)) := do
  let mutations ← Action.ofOutcome (c.compilePuts s false objects)
  if mutations.isEmpty then return []
  let response ← c.commit v none mutations
  Action.ofOutcome (Mutation.keys response (mutations.map (·.kind)))

/-- Writes an entity. -/
def put (c : Client) (v : Service σ) (s : Schema) (object : Native) :
    Action (Session σ) (Option Key) := do
  return (← c.putAll v s [object]).head?.join

/-- Deletes entities in one commit. -/
def deleteAll (c : Client) (v : Service σ) (keys : List KeyInput) : Action (Session σ) Unit := do
  let mutations ← Action.ofOutcome (keys.mapM c.compileDelete)
  if mutations.isEmpty then return
  let _ ← c.commit v none mutations

/-- Deletes an entity. -/
def delete (c : Client) (v : Service σ) (key : KeyInput) : Action (Session σ) Unit :=
  c.deleteAll v [key]

/-! ### Reads -/

/-- An entity as it is, or the object of a type that its properties describe. -/
def present (s : Schema) (into : Option Target) (e : Entity) : Outcome Native :=
  match into with
  | none => .ok (.entity e)
  | some t => fromValue s (.entity e.properties) t

/-- Reads entities. Keys without an entity are passed over. -/
def getAll (c : Client) (v : Service σ) (s : Schema) (transaction : Option Bytes)
    (keys : List KeyInput) (into : Option Target) : Action (Session σ) (List Native) := do
  let entities ← c.lookup v transaction keys
  Action.ofOutcome (entities.mapM (present s into))

/-- Reads an entity, if there is one. -/
def get (c : Client) (v : Service σ) (s : Schema) (transaction : Option Bytes)
    (key : KeyInput) (into : Option Target) : Action (Session σ) (Option Native) := do
  return (← c.getAll v s transaction [key] into).head?

end Client

end EntityStore
