import EntityStore.Yaml.Cursor

/-!
# Scalars

The text of quoted, plain and block scalars: line breaks are folded, escapes replaced and
indentation removed.

* `quotedScalar` — a scalar between quotation marks;
* `plainScalar` — a scalar without marks;
* `blockScalar` — a scalar of indented lines.
-/

namespace EntityStore.Yaml

/-! ### Quoted scalars -/

/-- The character that an escape of one letter stands for. -/
def escapes : List (Char × Char) :=
  [('0', '\x00'), ('a', '\x07'), ('b', '\x08'), ('t', '\x09'), ('\t', '\x09'), ('n', '\x0a'),
    ('v', '\x0b'), ('f', '\x0c'), ('r', '\x0d'), ('e', '\x1b'), (' ', ' '), ('"', '"'),
    ('\\', '\\'), ('/', '/'), ('N', '\x85'), ('_', '\xa0'), ('L', '\u2028'), ('P', '\u2029')]

/-- The number of hexadecimal digits behind an escape by code point. -/
def codeLengths : List (Char × Nat) :=
  [('x', 2), ('u', 4), ('U', 8)]

/-- The value of a hexadecimal digit. -/
def hexValue? (c : Char) : Option Nat :=
  if c.isDigit then some (c.toNat - 48)
  else if 'a' ≤ c && c ≤ 'f' then some (c.toNat - 87)
  else if 'A' ≤ c && c ≤ 'F' then some (c.toNat - 55)
  else none

/-- The number that hexadecimal digits denote. -/
def hexNumber? (cs : List Char) : Option Nat :=
  cs.foldl (fun n c => n.bind fun n => (hexValue? c).map (n * 16 + ·)) (some 0)

/-- The character with a code point. -/
def characterAt (code : Nat) : Parsed Char :=
  if code < 0x110000 then .ok (Char.ofNat code)
  else if code < 0x80000000 then .error (.meaningless (.value .characterRange))
  else .error (.meaningless .overflow)

/-- The empty lines ahead, as line breaks. No document mark may start one of them. -/
def emptyLines : Nat → Cursor → Parsed (List Char × Cursor)
  | 0, c => .ok ([], c)
  | fuel + 1, c =>
    if c.hasDocumentMark then .error .malformed
    else
      let c := c.skipRun fun ch => ch == ' ' || ch == '\t'
      if isBreak c.peek then
        let (b, c) := c.lineBreak
        (emptyLines fuel c).map fun (bs, c) => (b ++ bs, c)
      else .ok ([], c)

/-- A line break and the empty lines behind it: one line break alone becomes a space. -/
def foldedBreak (b bs : List Char) : List Char :=
  if b != ['\n'] then b ++ bs else if bs.isEmpty then [' '] else bs

/-- The character or the line break behind a backslash. -/
def escaped (c : Cursor) : Parsed (List Char × Cursor) :=
  let ch := c.peek
  match escapes.lookup ch, codeLengths.lookup ch with
  | some d, _ => .ok ([d], c.next)
  | none, some n =>
    let c := c.next
    match hexNumber? (c.rest.take n) with
    | some code =>
      if (c.rest.take n).length == n then (characterAt code).map fun d => ([d], c.skip n)
      else .error .malformed
    | none => .error .malformed
  | none, none =>
    if isBreak ch then emptyLines c.remaining c.lineBreak.2 else .error .malformed

/-- The text up to the closing mark, and the cursor behind the mark. -/
def quotedText (double : Bool) : Nat → Cursor → Parsed (List Char × Cursor)
  | 0, _ => .error .malformed
  | fuel + 1, c =>
    let mark := if double then '"' else '\''
    let ch := c.peek
    let add := fun (text : List Char) (c : Cursor) =>
      (quotedText double fuel c).map fun (rest, c) => (text ++ rest, c)
    if !double && ch == '\'' && c.look 1 == '\'' then add ['\''] (c.skip 2)
    else if ch == mark then .ok ([], c.next)
    else if double && ch == '\\' then do
      let (text, c) ← escaped c.next
      add text c
    else if ch == ' ' || ch == '\t' || endsLine ch then do
      let blanks := c.run fun ch => ch == ' ' || ch == '\t'
      let c := c.skip blanks.length
      if c.peek == atEnd then .error .malformed
      else if isBreak c.peek then
        let (b, c) := c.lineBreak
        let (bs, c) ← emptyLines c.remaining c
        add (foldedBreak b bs) c
      else add blanks c
    else add [ch] c.next

/-- A scalar between quotation marks. -/
def quotedScalar (double : Bool) (c : Cursor) : Parsed (String × Cursor) :=
  (quotedText double (c.remaining + 1) c.next).map fun (text, c) => (String.ofList text, c)

/-! ### Plain scalars -/

/-- Whether a plain scalar may start ahead. -/
def startsPlain (inFlow : Bool) (c : Cursor) : Bool :=
  let ch := c.peek
  !(endsToken ch || "-?:,[]\x7b\x7d#&*!|>'\"%@`".toList.contains ch) ||
    (!endsToken (c.look 1) && (ch == '-' || (!inFlow && (ch == '?' || ch == ':'))))

/-- The number of characters up to the end of a word of a plain scalar. -/
def plainWord (inFlow : Bool) : List Char → Nat
  | [] => 0
  | ch :: rest =>
    let following := rest.headD atEnd
    if endsToken ch then 0
    else if ch == ':' &&
        (endsToken following || (inFlow && ",[]\x7b\x7d".toList.contains following)) then 0
    else if inFlow && ",?[]\x7b\x7d".toList.contains ch then 0
    else plainWord inFlow rest + 1

/-- The line breaks ahead, passing over spaces, or none where a document mark starts a line. -/
def plainBreaks : Nat → Cursor → Option (List Char) × Cursor
  | 0, c => (some [], c)
  | fuel + 1, c =>
    if c.peek == ' ' then plainBreaks fuel c.next
    else if isBreak c.peek then
      let (b, c) := c.lineBreak
      if c.hasDocumentMark then (none, c)
      else
        let (bs, c) := plainBreaks fuel c
        (bs.map (b ++ ·), c)
    else (some [], c)

/-- What stands between two words of a plain scalar, the cursor behind it, and whether it held a
line break. -/
def plainGap (c : Cursor) : List Char × Cursor × Bool :=
  let spaces := c.run (· == ' ')
  let c := c.skip spaces.length
  if isBreak c.peek then
    let (b, c) := c.lineBreak
    if c.hasDocumentMark then ([], c, true)
    else
      match plainBreaks c.remaining c with
      | (some bs, c) => (foldedBreak b bs, c, true)
      | (none, c) => ([], c, true)
  else (spaces, c, false)

/-- A plain scalar. The result tells whether a line break stands behind it. -/
def plainText (inFlow : Bool) (indent : Int) (gap : List Char) (broken : Bool) :
    Nat → Cursor → List Char × Cursor × Bool
  | 0, c => ([], c, broken)
  | fuel + 1, c =>
    if c.peek == '#' then ([], c, broken)
    else
      let n := plainWord inFlow c.rest
      if n == 0 then ([], c, broken)
      else
        let word := gap ++ c.rest.take n
        let (gap, c, broken) := plainGap (c.skip n)
        if gap.isEmpty || c.peek == '#' || (!inFlow && (c.column : Int) < indent) then
          (word, c, broken)
        else
          let (rest, c, broken) := plainText inFlow indent gap broken fuel c
          (word ++ rest, c, broken)

/-- A plain scalar inside of a collection that is indented by `indent`. -/
def plainScalar (inFlow : Bool) (indent : Int) (c : Cursor) : String × Cursor × Bool :=
  let (text, c, broken) := plainText inFlow (indent + 1) [] false (c.remaining + 1) c
  (String.ofList text, c, broken)

/-! ### Block scalars -/

/-- What becomes of the line breaks at the end of a block scalar. -/
inductive Chomping
  | clip | strip | keep
  deriving DecidableEq

/-- The chomping that is asked for ahead. -/
def chomping? (c : Cursor) : Option Chomping :=
  if c.peek == '+' then some .keep else if c.peek == '-' then some .strip else none

/-- The indentation that is asked for ahead; zero is none. -/
def indentation? (c : Cursor) : Parsed (Option Nat) :=
  if c.peek == '0' then .error .malformed
  else if c.peek.isDigit then .ok (some (c.peek.toNat - 48))
  else .ok none

/-- The indicators of a block scalar, in either order. -/
def blockHeader (c : Cursor) : Parsed (Chomping × Option Nat × Cursor) := do
  match chomping? c with
  | some chomping =>
    let c := c.next
    match ← indentation? c with
    | some n => return (chomping, some n, c.next)
    | none => return (chomping, none, c)
  | none =>
    match ← indentation? c with
    | some n =>
      let c := c.next
      match chomping? c with
      | some chomping => return (chomping, some n, c.next)
      | none => return (.clip, some n, c)
    | none => return (.clip, none, c)

/-- The empty lines at the start of a block scalar, and the greatest column reached. -/
def blockStart (deepest : Nat) : Nat → Cursor → List Char × Nat × Cursor
  | 0, c => ([], deepest, c)
  | fuel + 1, c =>
    if c.peek == ' ' then
      let c := c.next
      blockStart (max deepest c.column) fuel c
    else if isBreak c.peek then
      let (b, c) := c.lineBreak
      let (bs, deepest, c) := blockStart deepest fuel c
      (b ++ bs, deepest, c)
    else ([], deepest, c)

/-- The cursor behind at most the spaces that indent a line. -/
def skipIndent (indent : Nat) (c : Cursor) : Cursor :=
  c.skip (min (indent - c.column) (c.run (· == ' ')).length)

/-- The empty lines ahead in a block scalar. -/
def blockBreaks (indent : Nat) : Nat → Cursor → List Char × Cursor
  | 0, c => ([], c)
  | fuel + 1, c =>
    let c := skipIndent indent c
    if isBreak c.peek then
      let (b, c) := c.lineBreak
      let (bs, c) := blockBreaks indent fuel c
      (b ++ bs, c)
    else ([], c)

/-- The lines of a block scalar behind the empty lines `breaks`. The result ends with the last line,
its line break and the empty lines behind it. -/
def blockLines (folded : Bool) (indent : Nat) (breaks : List Char) :
    Nat → Cursor → List Char × List Char × List Char × Cursor
  | 0, c => ([], [], breaks, c)
  | fuel + 1, c =>
    let line := c.run (!endsLine ·)
    let solid := !(c.peek == ' ' || c.peek == '\t')
    let (b, c) := (c.skip line.length).lineBreak
    let (after, c) := blockBreaks indent c.remaining c
    let here := breaks ++ line
    if c.column == indent && c.peek != atEnd then
      let joint :=
        if folded && b == ['\n'] && solid && !(c.peek == ' ' || c.peek == '\t') then
          if after.isEmpty then [' '] else []
        else b
      let (rest, b, after, c) := blockLines folded indent after fuel c
      (here ++ joint ++ rest, b, after, c)
    else (here, b, after, c)

/-- A block scalar inside of a collection that is indented by `parent`. -/
def blockScalar (folded : Bool) (parent : Int) (c : Cursor) : Parsed (String × Cursor) := do
  let (chomping, increment, c) ← blockHeader c.next
  if !endsName c.peek then .error .malformed
  let c ← c.skipLineEnd
  let least := (max (parent + 1) 1).toNat
  let (breaks, indent, c) :=
    match increment with
    | some n =>
      let indent := least + n - 1
      let (bs, c) := blockBreaks indent c.remaining c
      (bs, indent, c)
    | none =>
      let (bs, deepest, c) := blockStart 0 c.remaining c
      (bs, max least deepest, c)
  let (text, b, after, c) :=
    if c.column == indent && c.peek != atEnd then
      blockLines folded indent breaks (c.remaining + 1) c
    else ([], [], breaks, c)
  let ending := match chomping with
    | .clip => b
    | .strip => []
    | .keep => b ++ after
  return (String.ofList (text ++ ending), c)

end EntityStore.Yaml
