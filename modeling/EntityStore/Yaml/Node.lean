import EntityStore.Yaml.Tag
import EntityStore.Yaml.Token

/-!
# Nodes

The nodes that tokens describe. A node refers to others by number, because an alias can name a node
that is not complete yet.

* `Node` — a scalar, a sequence or a mapping;
* `Graph.ofTokens` — the nodes of the only document.
-/

namespace EntityStore.Yaml

/-- A node with its tag. -/
inductive Node
  | scalar (tag : Tag) (text : String)
  | sequence (tag : Tag) (items : List Nat)
  | mapping (tag : Tag) (entries : List (Nat × Nat))

/-- Nodes by number. -/
abbrev Graph := Array Node

/-- The tokens ahead, the nodes so far, the nodes with names, and the expansions of handles. -/
structure Reading where
  tokens : List Token
  nodes : Graph
  anchors : List (String × Nat)
  handles : List (String × String)

/-- A step of reading. -/
abbrev Reader := StateT Reading Parsed

namespace Reader

/-- A text that is no document. -/
def malformed {α : Type} : Reader α := fun _ => .error .malformed

/-- The next token, none at the end. -/
def peek : Reader (Option Token) := fun s =>
  match s.tokens with
  | .broken f :: _ => .error f
  | t :: _ => .ok (some t, s)
  | [] => .ok (none, s)

/-- Passes over a token. -/
def advance : Reader Unit :=
  modify fun s => { s with tokens := s.tokens.drop 1 }

/-- A new node. -/
def add (n : Node) : Reader Nat := fun s =>
  .ok (s.nodes.size, { s with nodes := s.nodes.push n })

/-- Gives a node its content. -/
def complete (id : Nat) (n : Node) : Reader Unit :=
  modify fun s => { s with nodes := s.nodes.setIfInBounds id n }

/-- Names a node. -/
def register (anchor : Option String) (id : Nat) : Reader Unit :=
  match anchor with
  | some name => modify fun s => { s with anchors := (name, id) :: s.anchors }
  | none => pure ()

/-- A scalar that is not written. -/
def empty : Reader Nat := add (.scalar .null "")

/-- The full name of a tag. -/
def tagUri (handle : Option String) (suffix : String) : Reader String := fun s =>
  match handle with
  | none => .ok (suffix, s)
  | some h =>
    match s.handles.lookup h with
    | some expansion => .ok (expansion ++ suffix, s)
    | none => .error .malformed

/-- An anchor, if one is ahead. -/
def anchor? : Reader (Option String) := do
  match ← peek with
  | some (.anchor name) => advance; return some name
  | _ => return none

/-- A tag, if one is ahead. -/
def tag? : Reader (Option (Option String × String)) := do
  match ← peek with
  | some (.tag handle suffix) => advance; return some (handle, suffix)
  | _ => return none

/-- The anchor and the tag in front of a node, in either order. -/
def properties : Reader (Option String × Option String) := do
  let anchor ← anchor?
  let tag ← tag?
  let anchor ← if anchor.isNone && tag.isSome then anchor? else pure anchor
  let uri ← match tag with
    | some (handle, suffix) => some <$> tagUri handle suffix
    | none => pure none
  match anchor with
  | some name =>
    if ((← get).anchors.lookup name).isSome then malformed
    return (anchor, uri)
  | none => return (none, uri)

/-- The tag of a collection. -/
def collectionTag (uri : Option String) (default : Tag) : Tag :=
  match uri with
  | none | some "!" => default
  | some uri => .ofUri uri

/-- The tag of a scalar. Without a name it is plain text that tells, or text. -/
def scalarTag (uri : Option String) (isPlain : Bool) (text : String) : Tag :=
  match uri with
  | none => if isPlain then .ofPlain text else .text
  | some "!" => .ofPlain text
  | some uri => .ofUri uri

/-- Whether an entry of a block sequence is empty before a token. -/
def endsBlockEntry (inMapping : Bool) : Option Token → Bool
  | some .blockEntry | some .blockEnd => true
  | some .key | some .value => inMapping
  | _ => false

/-- Whether a key or a value of a block mapping is empty before a token. -/
def endsBlockPart : Option Token → Bool
  | some .key | some .value | some .blockEnd => true
  | _ => false

/-- Whether a key or a value of a flow collection is empty before a token. -/
def endsFlowPart (inMapping isKey : Bool) : Option Token → Bool
  | some .value => isKey
  | some .flowEntry => true
  | some .flowSequenceEnd => !inMapping
  | some .flowMappingEnd => inMapping
  | _ => false

mutual

/-- A node. In a block, a collection may start by indentation; at the key or value of a mapping, a
sequence need not be indented. -/
def node (inBlock inMapping : Bool) : Nat → Reader Nat
  | 0 => malformed
  | fuel + 1 => do
    match ← peek with
    | some (.alias name) =>
      advance
      match (← get).anchors.lookup name with
      | some id => return id
      | none => malformed
    | _ =>
      let (anchor, uri) ← properties
      let sequence := fun (read : Reader (List Nat)) => do
        let tag := collectionTag uri .list
        let id ← add (.sequence tag [])
        register anchor id
        complete id (.sequence tag (← read))
        return id
      let mapping := fun (read : Reader (List (Nat × Nat))) => do
        let tag := collectionTag uri .mapping
        let id ← add (.mapping tag [])
        register anchor id
        complete id (.mapping tag (← read))
        return id
      let scalar := fun (text : String) (isPlain : Bool) => do
        let id ← add (.scalar (scalarTag uri isPlain text) text)
        register anchor id
        return id
      match ← peek, inBlock with
      | some .blockEntry, _ =>
        if inMapping then sequence (blockItems true fuel)
        else if anchor.isSome || uri.isSome then scalar "" true
        else malformed
      | some (.scalar text isPlain), _ => advance; scalar text isPlain
      | some .flowSequenceStart, _ => advance; sequence (flowItems true fuel)
      | some .flowMappingStart, _ => advance; mapping (flowPairs true fuel)
      | some .blockSequenceStart, true => advance; sequence (blockItems false fuel)
      | some .blockMappingStart, true => advance; mapping (blockPairs fuel)
      | _, _ => if anchor.isSome || uri.isSome then scalar "" true else malformed

/-- The items of a block sequence. One that is not indented has no end of its own. -/
def blockItems (inMapping : Bool) : Nat → Reader (List Nat)
  | 0 => malformed
  | fuel + 1 => do
    match ← peek with
    | some .blockEntry =>
      advance
      let item ← if endsBlockEntry inMapping (← peek) then empty else node true false fuel
      return item :: (← blockItems inMapping fuel)
    | t =>
      if inMapping then return []
      match t with
      | some .blockEnd => advance; return []
      | _ => malformed

/-- The pairs of a block mapping. -/
def blockPairs : Nat → Reader (List (Nat × Nat))
  | 0 => malformed
  | fuel + 1 => do
    match ← peek with
    | some .key =>
      advance
      let key ← if endsBlockPart (← peek) then empty else node true true fuel
      let value ← match ← peek with
        | some .value => do
          advance
          if endsBlockPart (← peek) then empty else node true true fuel
        | _ => empty
      return (key, value) :: (← blockPairs fuel)
    | some .blockEnd => advance; return []
    | _ => malformed

/-- A key of a flow collection, which is marked or is the whole entry, and its value. -/
def flowPair (inMapping : Bool) : Nat → Reader (Nat × Nat)
  | 0 => malformed
  | fuel + 1 => do
    advance
    let key ← if endsFlowPart inMapping true (← peek) then empty else node false false fuel
    let value ← match ← peek with
      | some .value => do
        advance
        if endsFlowPart inMapping false (← peek) then empty else node false false fuel
      | _ => empty
    return (key, value)

/-- The items of a flow sequence. A marked key makes a mapping of one pair. -/
def flowItems (isFirst : Bool) : Nat → Reader (List Nat)
  | 0 => malformed
  | fuel + 1 => do
    match ← peek, isFirst with
    | some .flowSequenceEnd, _ => advance; return []
    | some .flowEntry, false => advance
    | _, true => pure ()
    | _, false => malformed
    match ← peek with
    | some .flowSequenceEnd => advance; return []
    | some .key =>
      let id ← add (.mapping .mapping [])
      complete id (.mapping .mapping [← flowPair false fuel])
      return id :: (← flowItems false fuel)
    | _ =>
      let item ← node false false fuel
      return item :: (← flowItems false fuel)

/-- The pairs of a flow mapping. -/
def flowPairs (isFirst : Bool) : Nat → Reader (List (Nat × Nat))
  | 0 => malformed
  | fuel + 1 => do
    match ← peek, isFirst with
    | some .flowMappingEnd, _ => advance; return []
    | some .flowEntry, false => advance
    | _, true => pure ()
    | _, false => malformed
    match ← peek with
    | some .flowMappingEnd => advance; return []
    | some .key =>
      let pair ← flowPair true fuel
      return pair :: (← flowPairs false fuel)
    | _ =>
      let key ← node false false fuel
      let value ← empty
      return (key, value) :: (← flowPairs false fuel)

end

/-- The handles that every document knows. -/
def standardHandles : List (String × String) :=
  [("!", "!"), ("!!", Tag.standardStart)]

/-- Reads directives. There may be one version, and one expansion for each handle. -/
def directives : Nat → Bool → List (String × String) → Reader Unit
  | 0, _, _ => malformed
  | fuel + 1, hasVersion, handles => do
    match ← peek with
    | some (.directive (.version major)) =>
      if hasVersion || major != 1 then malformed
      advance
      directives fuel true handles
    | some (.directive (.handle name expansion)) =>
      if (handles.lookup name).isSome then malformed
      advance
      directives fuel hasVersion ((name, expansion) :: handles)
    | some (.directive .other) => advance; directives fuel hasVersion handles
    | _ => modify fun s => { s with handles := handles ++ standardHandles }

/-- Passes over marks of the end of a document. -/
def documentEnds : Nat → Reader Unit
  | 0 => pure ()
  | fuel + 1 => do
    match ← peek with
    | some .documentEnd => advance; documentEnds fuel
    | _ => pure ()

/-- The root of the only document, if there is one. -/
def root (fuel : Nat) : Reader (Option Nat) := do
  match ← peek with
  | none => return none
  | some (.directive _) | some .documentStart =>
    directives fuel false []
    match ← peek with
    | some .documentStart => advance
    | _ => malformed
    let id ← match ← peek with
      | none | some (.directive _) | some .documentStart | some .documentEnd => empty
      | _ => node true false fuel
    finish id
  | _ =>
    modify fun s => { s with handles := standardHandles }
    finish (← node true false fuel)
where
  /-- Nothing may follow the document. -/
  finish (id : Nat) : Reader (Option Nat) := do
    documentEnds fuel
    match ← peek with
    | none => return some id
    | some _ => malformed

end Reader

/-- The nodes of the only document, and which of them is the root, if there is one. -/
def Graph.ofTokens (tokens : List Token) : Parsed (Option Nat × Graph) := do
  let (root, s) ← (Reader.root (3 * tokens.length + 4)).run ⟨tokens, #[], [], []⟩
  return (root, s.nodes)

end EntityStore.Yaml
