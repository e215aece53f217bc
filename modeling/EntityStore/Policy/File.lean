import EntityStore.Environment
import EntityStore.Policy
import EntityStore.Yaml.Document

/-!
# Policies from documents

A document describes a policy by a mapping `kind` from kinds to mappings `property`, which flag
properties. Files that cannot be read or are no such document exclude nothing.

* `Policy.ofFlags` — the policy of a mapping from kinds to flags, where any data is a flag;
* `Policy.ofDocument` — the policy of a document;
* `Policy.ofFile`, `Policy.ofEnvironment` — the policy of a file, with warnings.
-/

namespace EntityStore.Policy

/-- The entries of a mapping. -/
def requireEntries : Document → Outcome (List (Atom × Document))
  | .mapping entries => .ok entries
  | _ => .error .missingAttribute

/-- The entries of a mapping. Data that does not count as true stands for an empty one. -/
def entriesOrNone (d : Option Document) : Outcome (List (Atom × Document)) :=
  match d with
  | none => .ok []
  | some d => if d.isTruthy then requireEntries d else .ok []

/-- The policy of a mapping from kinds to mappings from properties to flags. -/
def ofFlags (d : Document) : Outcome Policy := do
  let kinds ← (← entriesOrNone (some d)).mapM fun k => do
    let flags ← requireEntries k.2
    return (k.1.label, flags.map fun f => (f.1.label, f.2.isTruthy))
  return ofKinds kinds

/-- A fault of a document. -/
def refuse {α : Type} (fault : PolicyFault) : Outcome α :=
  .error (.value (.policy fault))

/-- The flag of a property, which must be a truth value. -/
def readFlag (kind : String) (entry : Atom × Document) : Outcome (String × Bool) :=
  match entry.2 with
  | .atom (.boolean b) => .ok (entry.1.label, b)
  | d => refuse (.flag kind entry.1.label d.form)

/-- The flags of a kind. -/
def readKind (entry : Atom × Document) : Outcome (String × List (String × Bool)) := do
  let kind := entry.1.label
  match entry.2 with
  | .mapping parts =>
    if !Document.hasOnly "property" parts then refuse (.kindEntry kind)
    match Document.find? "property" parts with
    | none => return (kind, [])
    | some (.mapping flags) => return (kind, ← flags.mapM (readFlag kind))
    | some d => if d.isTruthy then refuse (.properties kind) else return (kind, [])
  | _ => refuse (.kindEntry kind)

/-- The policy of a document. -/
def ofDocument (d : Document) : Outcome Policy :=
  match d with
  | .atom .null => .ok empty
  | .mapping parts =>
    if Document.hasOnly "kind" parts then do
      let kinds ← entriesOrNone (Document.find? "kind" parts)
      return ofKinds (← kinds.mapM readKind)
    else refuse .document
  | _ => refuse .document

/-- The policy of a file. Only what is wrong with the file as a whole or with the shape of its
document becomes a warning. -/
def ofFile (f : File) : Outcome (Policy × List Warning) :=
  match f with
  | .unreadable => .ok (empty, [.unreadable])
  | .content bytes =>
    match Document.ofBytes bytes with
    | .error .malformed => .ok (empty, [.notYaml])
    | .error (.meaningless e) => .error e
    | .ok d =>
      match ofDocument d with
      | .ok p => .ok (p, [])
      | .error (.value (.policy fault)) => .ok (empty, [.ignored fault])
      | .error e => .error e

/-- The variable that names the file of the policy. -/
def variableName : String := "INDEX_EXCLUDED"

/-- The policy of the file that a variable names. -/
def ofEnvironment (env : Environment) (files : Files) (name : String) :
    Outcome (Policy × List Warning) :=
  match env.nonempty? name with
  | none => .ok (empty, [])
  | some path => ofFile (files path)

end EntityStore.Policy
