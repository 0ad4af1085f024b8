import SchemaClasses.Failure

/-!
# Cursors

A place in a YAML text, with what follows it. The layout of a text depends on columns, and a short
key must stand on one line, so that a cursor counts characters, lines and columns.

## Main definitions

* `Cursor`: a place in a text.
* `Cursor.peek`: a character after the cursor; beyond the end of the text it is a null.
* `Cursor.step`, `Cursor.advance`: the cursor after one or more characters.
* `Cursor.lineBreak?`: a line break at the cursor.
-/

namespace SchemaClasses.Yaml

/-- The character that stands for the end of the text; no text holds it. -/
def endMark : Char := Char.ofNat 0

/-- The byte order mark, which takes up no column. -/
def byteOrderMark : Char := Char.ofNat 0xFEFF

def isBreak (c : Char) : Bool :=
  c = '\n' || c = '\r' || c.toNat = 0x85 || c.toNat = 0x2028 || c.toNat = 0x2029

def isBreakOrEnd (c : Char) : Bool := isBreak c || c = endMark

def isBlankOrEnd (c : Char) : Bool := c = ' ' || c = '\t' || isBreakOrEnd c

def isSpaceOrEnd (c : Char) : Bool := c = ' ' || isBreakOrEnd c

def isAllowed (c : Char) : Bool :=
  let n := c.toNat
  n = 0x09 || n = 0x0A || n = 0x0D || (0x20 ≤ n && n ≤ 0x7E) || n = 0x85 ||
    (0xA0 ≤ n && n ≤ 0xD7FF) || (0xE000 ≤ n && n ≤ 0xFFFD) || 0x10000 ≤ n

structure Cursor where
  /-- The characters after the place. -/
  rest : List Char
  /-- The count of characters before it. -/
  index : Nat := 0
  line : Nat := 0
  column : Nat := 0

namespace Cursor

def head (cursor : Cursor) : Char := cursor.rest.headD endMark

/-- The character after the next `offset` ones. -/
def peek (cursor : Cursor) (offset : Nat) : Char := (cursor.rest.drop offset).headD endMark

def step (cursor : Cursor) : Cursor :=
  match cursor.rest with
  | [] => cursor
  | c :: rest =>
    let index := cursor.index + 1
    if isBreak c && !(c = '\r' && rest.head? = some '\n') then
      { rest, index, line := cursor.line + 1, column := 0 }
    else if c = byteOrderMark then { cursor with rest, index }
    else { cursor with rest, index, column := cursor.column + 1 }

def advance : Nat → Cursor → Cursor
  | 0, cursor => cursor
  | count + 1, cursor => advance count cursor.step

def takeWhile (cursor : Cursor) (test : Char → Bool) : List Char × Cursor :=
  let taken := cursor.rest.takeWhile test
  (taken, cursor.advance taken.length)

def skipWhile (cursor : Cursor) (test : Char → Bool) : Cursor := (cursor.takeWhile test).2

def skipComment (cursor : Cursor) : Cursor :=
  if cursor.head = '#' then cursor.skipWhile (!isBreakOrEnd ·) else cursor

/-- The line break at the cursor and the cursor after it. The line and paragraph separators stand
for themselves, every other break for a line feed. -/
def lineBreak? (cursor : Cursor) : Option (Char × Cursor) :=
  let c := cursor.head
  if !isBreak c then none
  else if c = '\r' && cursor.peek 1 = '\n' then some ('\n', cursor.advance 2)
  else if c.toNat = 0x2028 || c.toNat = 0x2029 then some (c, cursor.step)
  else some ('\n', cursor.step)

/-- Whether three given characters and then a blank, a line break or the end of the text stand at
the cursor. -/
def atMarker (cursor : Cursor) (mark : Char) : Bool :=
  cursor.head = mark && cursor.peek 1 = mark && cursor.peek 2 = mark && isBlankOrEnd (cursor.peek 3)

def atDocumentMarker (cursor : Cursor) : Bool := cursor.atMarker '-' || cursor.atMarker '.'

/-- The cursor after the spaces and a comment up to the end of the line, and after its break;
nothing else may stand there. -/
def finishLine (cursor : Cursor) : Except Failure Cursor :=
  let cursor := (cursor.skipWhile (· = ' ')).skipComment
  if isBreakOrEnd cursor.head then .ok ((cursor.lineBreak?.map (·.2)).getD cursor)
  else .error .malformedYaml

end Cursor

def malformed {α : Type} : Except Failure α := .error .malformedYaml

end SchemaClasses.Yaml
