import EntityStore.Error

/-!
# Environment

What a program finds around it: variables and files, and the warnings about them.

* `Environment` — variables by name;
* `File` — what stands at a path;
* `Warning.text` — the wording of the warnings.
-/

namespace EntityStore

/-- Variables by name. -/
abbrev Environment := List (String × String)

/-- The text of a variable, unless it is unset or empty. -/
def Environment.nonempty? (env : Environment) (name : String) : Option String :=
  (env.lookup name).filter (· != "")

/-- What stands at a path: no file that can be read, or the bytes of one. -/
inductive File
  | unreadable
  | content (bytes : Bytes)
  deriving DecidableEq

/-- Files by path. -/
abbrev Files := String → File

/-- What is passed over with a warning. -/
inductive Warning
  | unreadable
  | notYaml
  | ignored (fault : PolicyFault)
  | noProject
  deriving DecidableEq, Repr

/-- The text of a warning. -/
def Warning.text : Warning → String
  | unreadable => "unreadable"
  | notYaml => "not valid YAML"
  | ignored fault => "ignored: " ++ fault.message
  | noProject => "No project configured (DATASTORE_PROJECT_ID / GOOGLE_CLOUD_PROJECT)"

end EntityStore
