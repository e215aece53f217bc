import EntityStore.Error

/-!
# Positions in a text

A cursor is the rest of a text and the place where it starts.

* `Cursor.peek`, `Cursor.look` — the characters ahead; the end of the text is the character NUL,
  which no document may hold;
* `Cursor.next`, `Cursor.skip` — the cursor further on;
* `Fault` — why a text is no document.
-/

namespace EntityStore.Yaml

/-- Why a text is no document: it is malformed, or a part of it has no meaning. -/
inductive Fault
  | malformed
  | meaningless (e : Error)
  deriving Inhabited

/-- A result or a fault. -/
abbrev Parsed := Except Fault

/-- The end of the text, as a character. -/
def atEnd : Char := '\x00'

/-- Whether `c` breaks a line. -/
def isBreak (c : Char) : Bool :=
  c == '\n' || c == '\r' || c == '\x85' || c == '\u2028' || c == '\u2029'

/-- Whether a line ends before `c`. -/
def endsLine (c : Char) : Bool :=
  c == atEnd || isBreak c

/-- Whether a line or a space ends a word before `c`. -/
def endsName (c : Char) : Bool :=
  c == ' ' || endsLine c

/-- Whether a line, a space or a tab ends a token before `c`. -/
def endsToken (c : Char) : Bool :=
  c == '\t' || endsName c

/-- Whether `c` may stand in a name. -/
def isNameChar (c : Char) : Bool :=
  c.isAlphanum || c == '-' || c == '_'

/-- The rest of a text of `size` characters and its place. -/
structure Cursor where
  rest : List Char
  size : Nat
  index : Nat
  line : Nat
  column : Nat

namespace Cursor

/-- The start of a text. -/
def start (s : List Char) : Cursor := ⟨s, s.length, 0, 0, 0⟩

/-- The number of characters ahead. -/
def remaining (c : Cursor) : Nat := c.size - c.index

/-- The next character. -/
def peek (c : Cursor) : Char := c.rest.headD atEnd

/-- The character `n` places ahead. -/
def look (c : Cursor) (n : Nat) : Char := (c.rest[n]?).getD atEnd

/-- The cursor behind the next character. A byte order mark takes no column. -/
def next (c : Cursor) : Cursor :=
  match c.rest with
  | [] => c
  | ch :: rest =>
    let c := { c with rest := rest, index := c.index + 1 }
    if isBreak ch && !(ch == '\r' && rest.headD atEnd == '\n') then
      { c with line := c.line + 1, column := 0 }
    else if ch == '\uFEFF' then c
    else { c with column := c.column + 1 }

/-- The cursor behind `n` characters. -/
def skip (c : Cursor) : Nat → Cursor
  | 0 => c
  | n + 1 => c.next.skip n

/-- The longest run of characters ahead that have a property. -/
def run (c : Cursor) (p : Char → Bool) : List Char := c.rest.takeWhile p

/-- The cursor behind that run. -/
def skipRun (c : Cursor) (p : Char → Bool) : Cursor := c.skip (c.run p).length

/-- The cursor behind the spaces ahead. -/
def skipSpaces (c : Cursor) : Cursor := c.skipRun (· == ' ')

/-- The line break ahead, written as one character, and the cursor behind it. -/
def lineBreak (c : Cursor) : List Char × Cursor :=
  let ch := c.peek
  if ch == '\u2028' || ch == '\u2029' then ([ch], c.next)
  else if ch == '\r' && c.look 1 == '\n' then (['\n'], c.skip 2)
  else if isBreak ch then (['\n'], c.next)
  else ([], c)

/-- Whether the three marks `ch` stand ahead as a token. -/
def hasMarks (c : Cursor) (ch : Char) : Bool :=
  c.peek == ch && c.look 1 == ch && c.look 2 == ch && endsToken (c.look 3)

/-- Whether the start or the end of a document is marked ahead. -/
def hasDocumentMark (c : Cursor) : Bool :=
  c.hasMarks '-' || c.hasMarks '.'

/-- The cursor behind a comment, which reaches to the end of the line. -/
def skipComment (c : Cursor) : Cursor :=
  if c.peek == '#' then c.skipRun (!endsLine ·) else c

/-- The cursor on the next line, if nothing but spaces and a comment is ahead on this one. -/
def skipLineEnd (c : Cursor) : Parsed Cursor :=
  let c := c.skipSpaces.skipComment
  if endsLine c.peek then .ok c.lineBreak.2 else .error .malformed

end Cursor

end EntityStore.Yaml
