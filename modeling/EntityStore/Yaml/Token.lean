import EntityStore.Yaml.Scalar

/-!
# Tokens

The tokens of a text. Indentation becomes tokens for the start and the end of block collections, and
the start of a mapping is put in front of its first key when the colon behind the key is met.

* `Token` — the tokens;
* `Token.ofText` — the tokens of a text; a fault in the text is the last token.
-/

namespace EntityStore.Yaml

/-- A directive: the version of the format, a handle for tags, or another one. -/
inductive Directive
  | version (major : Nat)
  | handle (name expansion : String)
  | other
  deriving DecidableEq

/-- The tokens of a text. -/
inductive Token
  | directive (d : Directive)
  | documentStart
  | documentEnd
  | blockSequenceStart
  | blockMappingStart
  | blockEnd
  | flowSequenceStart
  | flowSequenceEnd
  | flowMappingStart
  | flowMappingEnd
  | blockEntry
  | flowEntry
  | key
  | value
  | alias (name : String)
  | anchor (name : String)
  | tag (handle : Option String) (suffix : String)
  | scalar (text : String) (isPlain : Bool)
  | broken (f : Fault)

/-! ### Names, tags and directives -/

/-- A name that must not be empty. -/
def nonemptyRun (p : Char → Bool) (c : Cursor) : Parsed (String × Cursor) :=
  let run := c.run p
  if run.isEmpty then .error .malformed else .ok (String.ofList run, c.skip run.length)

/-- The cursor, if the character ahead has a property. -/
def require (p : Char → Bool) (c : Cursor) : Parsed Cursor :=
  if p c.peek then .ok c else .error .malformed

/-- The name of an anchor or alias behind its mark. -/
def anchorName (c : Cursor) : Parsed (String × Cursor) := do
  let (name, c) ← nonemptyRun isNameChar c.next
  let c ← require (fun ch => endsToken ch || "?:,]\x7d%@`".toList.contains ch) c
  return (name, c)

/-- A handle: an exclamation mark, or a name between two of them. -/
def tagHandle (c : Cursor) : Parsed (String × Cursor) := do
  let c ← require (· == '!') c
  if c.look 1 == ' ' then return ("!", c.next)
  let name := c.next.run isNameChar
  let c ← require (· == '!') (c.skip (name.length + 1))
  return (String.ofList ('!' :: name ++ ['!']), c.next)

/-- Whether `c` may stand in the suffix of a tag. -/
def isUriChar (c : Char) : Bool :=
  c.isAlphanum || "-;/?:@&=+$,_.!~*'()[]".toList.contains c

/-- The bytes of the escapes ahead. -/
def uriBytes : Nat → Cursor → Parsed (Bytes × Cursor)
  | 0, c => .ok ([], c)
  | fuel + 1, c =>
    if c.peek == '%' then
      match hexValue? (c.look 1), hexValue? (c.look 2) with
      | some a, some b =>
        (uriBytes fuel (c.skip 3)).map fun (bs, c) => (UInt8.ofNat (a * 16 + b) :: bs, c)
      | _, _ => .error .malformed
    else .ok ([], c)

/-- The suffix of a tag, with its escapes replaced. -/
def uriText : Nat → Cursor → Parsed (List Char × Cursor)
  | 0, c => .ok ([], c)
  | fuel + 1, c =>
    if c.peek == '%' then do
      let (bs, c) ← uriBytes c.remaining c
      match String.fromUTF8? ⟨bs.toArray⟩ with
      | some s => (uriText fuel c).map fun (rest, c) => (s.toList ++ rest, c)
      | none => .error .malformed
    else if isUriChar c.peek then
      (uriText fuel c.next).map fun (rest, d) => (c.peek :: rest, d)
    else .ok ([], c)

/-- The suffix of a tag, which must not be empty. -/
def tagUri (c : Cursor) : Parsed (String × Cursor) := do
  let (text, d) ← uriText c.remaining c
  if text.isEmpty then .error .malformed
  return (String.ofList text, d)

/-- Whether a handle follows: an exclamation mark stands before the next space. -/
def hasHandle (c : Cursor) : Bool :=
  (c.next.run fun ch => !endsName ch).contains '!'

/-- A tag. -/
def tagToken (c : Cursor) : Parsed (Token × Cursor) := do
  let (tag, c) ←
    if c.look 1 == '<' then do
      let (uri, c) ← tagUri (c.skip 2)
      let c ← require (· == '>') c
      pure (Token.tag none uri, c.next)
    else if endsToken (c.look 1) then pure (Token.tag none "!", c.next)
    else do
      let (handle, c) ← if hasHandle c then tagHandle c else pure ("!", c.next)
      let (uri, c) ← tagUri c
      pure (Token.tag (some handle) uri, c)
  let c ← require endsName c
  return (tag, c)

/-- The number ahead, which must have a digit. -/
def versionNumber (c : Cursor) : Parsed (Nat × Cursor) := do
  let (digits, c) ← nonemptyRun Char.isDigit c
  return (digits.toList.foldl (fun n d => n * 10 + (d.toNat - 48)) 0, c)

/-- A directive, with the rest of its line. -/
def directiveToken (c : Cursor) : Parsed (Token × Cursor) := do
  let (name, c) ← nonemptyRun isNameChar c.next
  let c ← require endsName c
  let (d, c) ←
    if name == "YAML" then do
      let (major, c) ← versionNumber c.skipSpaces
      let c ← require (· == '.') c
      let (_, c) ← versionNumber c.next
      let c ← require endsName c
      pure (Directive.version major, c)
    else if name == "TAG" then do
      let (handle, c) ← tagHandle c.skipSpaces
      let c ← require (· == ' ') c
      let (expansion, c) ← tagUri c.skipSpaces
      let c ← require endsName c
      pure (Directive.handle handle expansion, c)
    else pure (Directive.other, c.skipRun (!endsLine ·))
  return (.directive d, ← c.skipLineEnd)

/-! ### The state of reading -/

/-- A place where a key without a question mark may have started. -/
structure SimpleKey where
  token : Nat
  isRequired : Bool
  index : Nat
  line : Nat
  column : Nat

/-- The state between two tokens: the text ahead, the tokens so far, the depth of flow collections,
the indentation of the block collections, and the places where keys may have started by depth. -/
structure Lexer where
  cursor : Cursor
  tokens : Array Token
  flow : Nat
  indent : Int
  indents : List Int
  allowsKey : Bool
  keys : List (Nat × SimpleKey)

namespace Lexer

/-- The state with one more token. -/
def push (s : Lexer) (t : Token) : Lexer := { s with tokens := s.tokens.push t }

/-- The state behind `n` characters with one more token. -/
def pushSkip (s : Lexer) (t : Token) (n : Nat) : Lexer :=
  { s with tokens := s.tokens.push t, cursor := s.cursor.skip n }

/-- The state behind blanks, comments and line breaks. Behind a line break a key may start. -/
def skipBlanks : Nat → Lexer → Lexer
  | 0, s => s
  | fuel + 1, s =>
    let c := s.cursor.skipSpaces.skipComment
    if isBreak c.peek then
      skipBlanks fuel
        { s with cursor := c.lineBreak.2, allowsKey := s.allowsKey || s.flow == 0 }
    else { s with cursor := c }

/-- Whether a key is too far behind: on another line or more than 1024 characters away. -/
def isStale (s : Lexer) (k : SimpleKey) : Bool :=
  k.line != s.cursor.line || k.index + 1024 < s.cursor.index

/-- The state without keys that are too far behind. -/
def dropStaleKeys (s : Lexer) : Parsed Lexer :=
  if s.keys.any fun k => s.isStale k.2 && k.2.isRequired then .error .malformed
  else .ok { s with keys := s.keys.filter fun k => !s.isStale k.2 }

/-- The state without a possible key at this depth. -/
def removeKey (s : Lexer) : Parsed Lexer :=
  match s.keys.lookup s.flow with
  | some k =>
    if k.isRequired then .error .malformed
    else .ok { s with keys := s.keys.filter (·.1 != s.flow) }
  | none => .ok s

/-- The state in which a key may start here, where one is allowed. -/
def saveKey (s : Lexer) : Parsed Lexer :=
  if s.allowsKey then do
    let c := s.cursor
    let s ← s.removeKey
    let k := ⟨s.tokens.size, s.flow == 0 && s.indent == (c.column : Int), c.index, c.line, c.column⟩
    return { s with keys := (s.flow, k) :: s.keys }
  else .ok s

/-- The ends of the block collections that are indented further than `column`. -/
def unwindTo (column : Int) : List Int → Int → Array Token → List Int × Int × Array Token
  | outer :: rest, indent, tokens =>
    if column < indent then unwindTo column rest outer (tokens.push .blockEnd)
    else (outer :: rest, indent, tokens)
  | [], indent, tokens => ([], indent, tokens)

/-- The state behind the block collections that are indented further than `column`. -/
def unwind (s : Lexer) (column : Int) : Lexer :=
  if s.flow != 0 then s
  else
    let (indents, indent, tokens) := unwindTo column s.indents s.indent s.tokens
    { s with indents := indents, indent := indent, tokens := tokens }

/-- The state in a block collection at `column`, and whether it starts here. -/
def addIndent (s : Lexer) (column : Nat) : Lexer × Bool :=
  if s.indent < column then
    ({ s with indents := s.indent :: s.indents, indent := column }, true)
  else (s, false)

/-- A new block collection at the cursor, where it lies deeper than the one around it. -/
def openBlock (s : Lexer) (start : Token) : Lexer :=
  let (s, isNew) := s.addIndent s.cursor.column
  if isNew then s.push start else s

/-- The state behind all block collections, at a mark or directive that belongs to none. -/
def leaveBlocks (s : Lexer) : Parsed Lexer := do
  let s ← (s.unwind (-1)).removeKey
  return { s with allowsKey := false }

/-! ### Single tokens -/

/-- The start of a flow collection. -/
def openFlow (s : Lexer) (t : Token) : Parsed Lexer := do
  let s ← s.saveKey
  return { s with flow := s.flow + 1, allowsKey := true }.pushSkip t 1

/-- The end of a flow collection. A bracket that closes nothing is refused with its token. -/
def closeFlow (s : Lexer) (t : Token) : Parsed Lexer := do
  let s ← s.removeKey
  return { s with flow := s.flow - 1, allowsKey := false }.pushSkip t 1

/-- A comma between entries of a flow collection. -/
def flowEntry (s : Lexer) : Parsed Lexer := do
  let s ← { s with allowsKey := true }.removeKey
  return s.pushSkip .flowEntry 1

/-- A dash in front of an entry of a block sequence. -/
def blockEntry (s : Lexer) : Parsed Lexer := do
  if s.flow == 0 && !s.allowsKey then .error .malformed
  let s := if s.flow == 0 then s.openBlock .blockSequenceStart else s
  let s ← { s with allowsKey := true }.removeKey
  return s.pushSkip .blockEntry 1

/-- A question mark in front of a key. -/
def explicitKey (s : Lexer) : Parsed Lexer := do
  if s.flow == 0 && !s.allowsKey then .error .malformed
  let s := if s.flow == 0 then s.openBlock .blockMappingStart else s
  let s ← { s with allowsKey := s.flow == 0 }.removeKey
  return s.pushSkip .key 1

/-- Tokens with `t` put in front of the token at `n`. -/
def insertAt (tokens : Array Token) (n : Nat) (t : Token) : Array Token :=
  tokens.insertIdxIfInBounds n t

/-- A colon in front of a value. What stood at the last possible start of a key becomes one. -/
def mappingValue (s : Lexer) : Parsed Lexer := do
  match s.keys.lookup s.flow with
  | some k =>
    let s := { s with
      keys := s.keys.filter (·.1 != s.flow), tokens := insertAt s.tokens k.token .key }
    let (s, isNew) := if s.flow == 0 then s.addIndent k.column else (s, false)
    let s := if isNew then { s with tokens := insertAt s.tokens k.token .blockMappingStart } else s
    return { s with allowsKey := false }.pushSkip .value 1
  | none =>
    if s.flow == 0 && !s.allowsKey then .error .malformed
    let s := if s.flow == 0 then s.openBlock .blockMappingStart else s
    let s ← { s with allowsKey := s.flow == 0 }.removeKey
    return s.pushSkip .value 1

/-- A token that a key can start with. -/
def keyToken (s : Lexer) (read : Cursor → Parsed (Token × Cursor)) : Parsed Lexer := do
  let s ← s.saveKey
  let (t, c) ← read s.cursor
  return { s with allowsKey := false, cursor := c }.push t

/-- A plain scalar. Behind a line break at its end a key may start. -/
def plainToken (s : Lexer) : Parsed Lexer := do
  let s ← s.saveKey
  let (text, c, broken) := plainScalar (s.flow != 0) s.indent s.cursor
  return { s with allowsKey := broken, cursor := c }.push (.scalar text true)

/-- A block scalar. -/
def blockToken (s : Lexer) (folded : Bool) : Parsed Lexer := do
  let s ← { s with allowsKey := true }.removeKey
  let (text, c) ← blockScalar folded s.indent s.cursor
  return { s with cursor := c }.push (.scalar text false)

/-- The mark of a document. -/
def documentMark (s : Lexer) (t : Token) : Parsed Lexer := do
  return (← s.leaveBlocks).pushSkip t 3

/-- The state behind the next token, which is not blank. -/
def fetch (s : Lexer) : Parsed Lexer :=
  let c := s.cursor
  let ch := c.peek
  let inFlow := s.flow != 0
  if ch == '%' && c.column == 0 then do
    let s ← s.leaveBlocks
    let (t, c) ← directiveToken s.cursor
    return { s with cursor := c }.push t
  else if c.column == 0 && c.hasMarks '-' then s.documentMark .documentStart
  else if c.column == 0 && c.hasMarks '.' then s.documentMark .documentEnd
  else if ch == '[' then s.openFlow .flowSequenceStart
  else if ch == '\x7b' then s.openFlow .flowMappingStart
  else if ch == ']' then s.closeFlow .flowSequenceEnd
  else if ch == '\x7d' then s.closeFlow .flowMappingEnd
  else if ch == ',' then s.flowEntry
  else if ch == '-' && endsToken (c.look 1) then s.blockEntry
  else if ch == '?' && (inFlow || endsToken (c.look 1)) then s.explicitKey
  else if ch == ':' && (inFlow || endsToken (c.look 1)) then s.mappingValue
  else if ch == '*' then
    s.keyToken fun c => (anchorName c).map fun (name, c) => (.alias name, c)
  else if ch == '&' then
    s.keyToken fun c => (anchorName c).map fun (name, c) => (.anchor name, c)
  else if ch == '!' then s.keyToken tagToken
  else if ch == '|' && !inFlow then s.blockToken false
  else if ch == '>' && !inFlow then s.blockToken true
  else if ch == '\'' then
    s.keyToken fun c => (quotedScalar false c).map fun (text, c) => (.scalar text false, c)
  else if ch == '"' then
    s.keyToken fun c => (quotedScalar true c).map fun (text, c) => (.scalar text false, c)
  else if startsPlain inFlow c then s.plainToken
  else .error .malformed

/-- The state at the next token, behind the ends of block collections. -/
def approach (s : Lexer) : Parsed Lexer := do
  let s ← (skipBlanks (s.cursor.remaining + 1) s).dropStaleKeys
  return s.unwind s.cursor.column

/-- All tokens, for at most `fuel` steps. -/
def all : Nat → Lexer → Array Token
  | 0, s => s.tokens.push (.broken .malformed)
  | fuel + 1, s =>
    match s.approach with
    | .error f => s.tokens.push (.broken f)
    | .ok s =>
      if s.cursor.peek == atEnd then
        match s.leaveBlocks with
        | .error f => s.tokens.push (.broken f)
        | .ok s => s.tokens
      else
        match s.fetch with
        | .error f => s.tokens.push (.broken f)
        | .ok s => all fuel s

end Lexer

/-- Whether `c` may stand in a text. -/
def isAllowed (c : Char) : Bool :=
  let n := c.toNat
  n == 0x9 || n == 0xa || n == 0xd || (0x20 ≤ n && n ≤ 0x7e) || n == 0x85 ||
    (0xa0 ≤ n && n ≤ 0xd7ff) || (0xe000 ≤ n && n ≤ 0xfffd) || (0x10000 ≤ n && n ≤ 0x10ffff)

/-- The tokens of a text. A byte order mark may stand in front. -/
def Token.ofText (text : List Char) : List Token :=
  if text.all isAllowed then
    let c := Cursor.start text
    let c := if c.peek == '\uFEFF' then c.next else c
    (Lexer.all (text.length + 2) ⟨c, #[], 0, -1, [], true, []⟩).toList
  else [.broken .malformed]

end EntityStore.Yaml
