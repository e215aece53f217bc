import EntityStore.Yaml.Atom
import EntityStore.Yaml.Node

/-!
# Data of nodes

The data that a graph of nodes denotes. Merged mappings are written out first, every node is checked
in the order in which its data is made, and then the graph is unfolded.

* `Graph.settle` — the graph without merges, if every node that is reached denotes data;
* `Graph.document` — the data of a node of such a graph;
* `Document.ofText`, `Document.ofBytes` — the data of a text or a file.
-/

namespace EntityStore.Yaml

namespace Graph

/-- The entries of a mapping node. -/
def entries? (g : Graph) (id : Nat) : Option (List (Nat × Nat)) :=
  match g[id]? with
  | some (.mapping _ entries) => some entries
  | _ => none

/-- The items of a sequence node. -/
def items? (g : Graph) (id : Nat) : Option (List Nat) :=
  match g[id]? with
  | some (.sequence _ items) => some items
  | _ => none

/-- The tag of a node. -/
def tag (g : Graph) (id : Nat) : Tag :=
  match g[id]? with
  | some (.scalar t _) | some (.sequence t _) | some (.mapping t _) => t
  | none => .unknown

/-- The text of a scalar node. The text of a mapping is that of its default value. -/
def text? (g : Graph) : Nat → Nat → Option String
  | 0, _ => none
  | fuel + 1, id =>
    match g[id]? with
    | some (.scalar _ s) => some s
    | some (.mapping _ entries) =>
      match entries.find? fun e => g.tag e.1 == .defaultValue with
      | some e => text? g fuel e.2
      | none => none
    | _ => none

/-- The data without parts that a node denotes. -/
def atom (g : Graph) (id : Nat) : Parsed Atom :=
  match g.text? (g.size + 1) id with
  | some s =>
    if g.tag id == .timestamp && (g.entries? id).isSome then
      .error (.meaningless (.type .arguments))
    else (g.tag id).read s
  | none => .error .malformed

/-! ### Merges -/

/-- The graph in which a mapping has given entries. -/
def setEntries (g : Graph) (id : Nat) (entries : List (Nat × Nat)) : Graph :=
  match g[id]? with
  | some (.mapping t _) => g.setIfInBounds id (.mapping t entries)
  | _ => g

/-- The graph in which keys that mark a default value are texts. -/
def plainKeys (entries : List (Nat × Nat)) (g : Graph) : Graph :=
  let plain := fun (g : Graph) (e : Nat × Nat) =>
    match g[e.1]? with
    | some (.scalar .defaultValue s) => g.setIfInBounds e.1 (.scalar .text s)
    | some (.sequence .defaultValue items) => g.setIfInBounds e.1 (.sequence .text items)
    | some (.mapping .defaultValue es) => g.setIfInBounds e.1 (.mapping .text es)
    | _ => g
  entries.foldl plain g

mutual

/-- The graph in which a mapping holds the entries that it merges, in front of its own. -/
def flatten : Nat → Nat → Graph → Parsed Graph
  | 0, _, _ => .error .malformed
  | fuel + 1, id, g => do
    let (merged, g) ← merges fuel id g
    return g.setEntries id (merged ++ (g.entries? id).getD [])

/-- The entries that a mapping merges, and the graph without its merges. -/
def merges : Nat → Nat → Graph → Parsed (List (Nat × Nat) × Graph)
  | 0, _, _ => .error .malformed
  | fuel + 1, id, g => do
    let entries := (g.entries? id).getD []
    let isOwn := fun (e : Nat × Nat) => g.tag e.1 != .merge
    let before := entries.takeWhile isOwn
    match entries.dropWhile isOwn with
    | [] => return ([], plainKeys before g)
    | (_, v) :: after =>
      let g := plainKeys before (g.setEntries id (before ++ after))
      let (here, g) ←
        match g[v]? with
        | some (.mapping _ _) => do
          let g ← flatten fuel v g
          pure ((g.entries? v).getD [], g)
        | some (.sequence _ items) => mergesOf fuel items g
        | _ => .error .malformed
      let (rest, g) ← merges fuel id g
      return (here ++ rest, g)

/-- The entries of several mappings; those of the last mapping come first. -/
def mergesOf : Nat → List Nat → Graph → Parsed (List (Nat × Nat) × Graph)
  | 0, _, _ => .error .malformed
  | _ + 1, [], g => .ok ([], g)
  | fuel + 1, id :: rest, g => do
    if (g.entries? id).isNone then .error .malformed
    let g ← flatten fuel id g
    let here := (g.entries? id).getD []
    let (more, g) ← mergesOf fuel rest g
    return (more ++ here, g)

end

/-- The number of parts of all collections. -/
def width (g : Graph) : Nat :=
  let add := fun (n : Nat) (node : Node) =>
    match node with
    | .scalar _ _ => n
    | .sequence _ items => n + items.length
    | .mapping _ entries => n + entries.length
  g.foldl add 0

/-! ### Checks -/

/-- The graph, the collections that are known, and those of them that are still to be filled. -/
structure Filling where
  graph : Graph
  known : List Nat
  queue : List Nat

/-- Makes the data of a node. A collection is filled later, once. -/
def Filling.visit (s : Filling) (id : Nat) : Parsed Filling :=
  if (s.graph.tag id).isCollection then
    if s.known.contains id then .ok s
    else .ok { s with known := id :: s.known, queue := s.queue ++ [id] }
  else (s.graph.atom id).map fun _ => s

/-- Makes the key and the value of an entry. A collection is no key. -/
def Filling.visitEntry (s : Filling) (e : Nat × Nat) : Parsed Filling := do
  let s ← s.visit e.1
  if (s.graph.tag e.1).isCollection then .error .malformed
  s.visit e.2

/-- Makes the two parts of a pair, which is written as a mapping with one entry. -/
def Filling.visitPair (s : Filling) (id : Nat) : Parsed Filling := do
  match s.graph.entries? id with
  | some [e] => (← s.visit e.1).visit e.2
  | _ => .error .malformed

/-- Fills a collection. -/
def Filling.fill (s : Filling) (id : Nat) : Parsed Filling := do
  match s.graph.tag id, s.graph.items? id, s.graph.entries? id with
  | .list, some items, _ => items.foldlM visit s
  | .orderedMapping, some items, _ | .pairs, some items, _ => items.foldlM visitPair s
  | .mapping, _, some _ | .set, _, some _ =>
    let g ← Graph.flatten ((s.graph.size + 2) * (s.graph.width + 2)) id s.graph
    ((g.entries? id).getD []).foldlM visitEntry { s with graph := g }
  | _, _, _ => .error .malformed

/-- Fills collections until all are filled. -/
def Filling.fillAll : Nat → Filling → Parsed Graph
  | 0, s => .ok s.graph
  | fuel + 1, s =>
    match s.queue with
    | [] => .ok s.graph
    | id :: rest => do fillAll fuel (← { s with queue := rest }.fill id)

/-- The graph without merges, if every node that is reached denotes data. -/
def settle (g : Graph) (root : Nat) : Parsed Graph := do
  let s ← Filling.visit ⟨g, [], []⟩ root
  s.fillAll (g.size + 1)

/-! ### Unfolding -/

/-- The number of levels that are written out even where a collection holds itself. -/
def freshLevels : Nat := 4

/-- Data that is complete, by node. -/
abbrev Complete := List (Nat × Document)

/-- The atom of a node that is known to be one. -/
def atomOf (g : Graph) (id : Nat) : Atom :=
  match g.atom id with
  | .ok a => a
  | .error _ => .null

mutual

/-- The data of a node, and whether no part of it is left out. `active` are the collections around
it. -/
def unfold (g : Graph) : Nat → Nat → List Nat → Nat → StateM Complete (Document × Bool)
  | 0, _, _, _ => pure (.atom .null, false)
  | fuel + 1, fresh, active, id => do
    let tag := g.tag id
    if !tag.isCollection then return (.atom (g.atomOf id), true)
    if active.contains id then return (.repeated (tag != .mapping && tag != .set), false)
    match fresh, (← get).lookup id with
    | 0, some d => return (d, true)
    | _, _ =>
      let active := if fresh == 0 then id :: active else active
      let below := fresh - 1
      let items := (g.items? id).getD []
      let entries := (g.entries? id).getD []
      let (d, whole) ←
        match tag with
        | .list => do
          let parts ← unfoldAll g fuel below active items
          pure (Document.list (parts.map (·.1)), parts.all (·.2))
        | .mapping => do
          let parts ← unfoldAll g fuel below active (entries.map (·.2))
          let keys := entries.map fun e => g.atomOf e.1
          pure (Document.ofEntries (keys.zip (parts.map (·.1))), parts.all (·.2))
        | .set => pure (Document.ofItems (entries.map fun e => g.atomOf e.1), true)
        | _ => do
          let pairs := items.flatMap fun i => (g.entries? i).getD []
          let keys ← unfoldAll g fuel below active (pairs.map (·.1))
          let values ← unfoldAll g fuel below active (pairs.map (·.2))
          let whole := keys.all (·.2) && values.all (·.2)
          pure (Document.pairs ((keys.map (·.1)).zip (values.map (·.1))), whole)
      if fresh == 0 && whole then modify ((id, d) :: ·)
      return (d, whole)

/-- The data of several nodes. -/
def unfoldAll (g : Graph) :
    Nat → Nat → List Nat → List Nat → StateM Complete (List (Document × Bool))
  | 0, _, _, _ => pure []
  | _ + 1, _, _, [] => pure []
  | fuel + 1, fresh, active, id :: rest => do
    let d ← unfold g fuel fresh active id
    let ds ← unfoldAll g fuel fresh active rest
    return d :: ds

end

/-- The data of a node. -/
def document (g : Graph) (id : Nat) : Document :=
  ((unfold g ((g.size + 5) * (g.width + 2)) freshLevels [] id).run []).1.1

end Graph

end EntityStore.Yaml

namespace EntityStore.Document

open Yaml

/-- The data of a text. A text without a document is nothing. -/
def ofText (text : List Char) : Parsed Document := do
  let (root, g) ← Graph.ofTokens (Token.ofText text)
  match root with
  | none => return .atom .null
  | some id => return (← g.settle id).document id

/-- A text in which every line ends with one line feed. -/
def unifyLines : List Char → List Char
  | '\r' :: '\n' :: rest => '\n' :: unifyLines rest
  | '\r' :: rest => '\n' :: unifyLines rest
  | c :: rest => c :: unifyLines rest
  | [] => []

/-- The data of a file. -/
def ofBytes (bytes : Bytes) : Parsed Document :=
  match String.fromUTF8? ⟨bytes.toArray⟩ with
  | some s => ofText (unifyLines s.toList)
  | none => .error (.meaningless .undecodableText)

end EntityStore.Document
