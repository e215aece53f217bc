import EntityStore.Environment
import EntityStore.Number.Literal

/-!
# Configuration

Where the service is and which limits apply. Every setting has a default, and every one can come
from the environment.

* `Config.make` — settings with positive limits;
* `Config.ofEnvironment` — the settings of an environment;
* `Config.address`, `Config.isSecure` — how the channel is opened.
-/

namespace EntityStore

/-- Settings. -/
structure Config where
  projectId : String
  endpoint : String
  emulatorHost : Option String
  credentialsPath : Option String
  indexExcludedPath : Option String
  maxRounds : Nat
  maxMessageSize : Nat
  maxRounds_pos : 0 < maxRounds
  maxMessageSize_pos : 0 < maxMessageSize

namespace Config

/-- The address of the service. -/
def defaultEndpoint : String := "datastore.googleapis.com:443"

/-- The number of rounds of a call. -/
def defaultMaxRounds : Nat := 10000

/-- The size of a message in bytes. -/
def defaultMaxMessageSize : Nat := 50 * 1024 * 1024

/-- Settings that are not checked yet. -/
structure Settings where
  projectId : String := ""
  endpoint : String := defaultEndpoint
  emulatorHost : Option String := none
  credentialsPath : Option String := none
  indexExcludedPath : Option String := none
  maxRounds : Int := defaultMaxRounds
  maxMessageSize : Int := defaultMaxMessageSize

/-- The configuration with given settings. Both limits must be positive. -/
def make (s : Settings) : Outcome Config :=
  if hr : 0 < s.maxRounds then
    if hs : 0 < s.maxMessageSize then
      .ok {
        projectId := s.projectId
        endpoint := s.endpoint
        emulatorHost := s.emulatorHost
        credentialsPath := s.credentialsPath
        indexExcludedPath := s.indexExcludedPath
        maxRounds := s.maxRounds.toNat
        maxMessageSize := s.maxMessageSize.toNat
        maxRounds_pos := by omega
        maxMessageSize_pos := by omega }
    else .error (.value (.maxMessageSize s.maxMessageSize))
  else .error (.value (.maxRounds s.maxRounds))

/-- The configuration of a project, with defaults for all else. -/
def ofProject (projectId : String) : Config where
  projectId := projectId
  endpoint := defaultEndpoint
  emulatorHost := none
  credentialsPath := none
  indexExcludedPath := none
  maxRounds := defaultMaxRounds
  maxMessageSize := defaultMaxMessageSize
  maxRounds_pos := by decide
  maxMessageSize_pos := by decide

/-- The address that the channel connects to. -/
def address (c : Config) : String :=
  match c.emulatorHost with
  | none | some "" => c.endpoint
  | some host => host

/-- Whether the channel is encrypted. -/
def isSecure (c : Config) : Bool := c.emulatorHost.isNone

/-- The integer in a variable, or a default where it is unset. -/
def integerVariable (env : Environment) (name : String) (default : Int) : Outcome Int :=
  match env.lookup name with
  | none => .ok default
  | some s =>
    match Literal.integer 10 s.toList with
    | .ok n => .ok n
    | .error .malformed => .error (.value (.integerText 10 s))
    | .error (.tooLong n) => .error (.value (.integerLength n))

/-- The project that an environment names. -/
def projectOf (env : Environment) : String :=
  match env.nonempty? "DATASTORE_PROJECT_ID" with
  | some p => p
  | none => (env.lookup "GOOGLE_CLOUD_PROJECT").getD ""

/-- The configuration that an environment gives. -/
def ofEnvironment (env : Environment) : Outcome (Config × List Warning) := do
  let project := projectOf env
  let rounds ← integerVariable env "DATASTORE_MAX_ROUNDS" defaultMaxRounds
  let size ← integerVariable env "DATASTORE_MAX_MESSAGE_SIZE" defaultMaxMessageSize
  let c ← make {
    projectId := project
    endpoint := (env.lookup "DATASTORE_ENDPOINT").getD defaultEndpoint
    emulatorHost := env.nonempty? "DATASTORE_EMULATOR_HOST"
    credentialsPath := env.nonempty? "GOOGLE_APPLICATION_CREDENTIALS"
    indexExcludedPath := env.nonempty? "INDEX_EXCLUDED"
    maxRounds := rounds
    maxMessageSize := size }
  return (c, if project == "" then [.noProject] else [])

end Config

end EntityStore
