import SchemaClasses.Text.Escaped
import SchemaClasses.Text.Digit
import SchemaClasses.Yaml.Cursor

/-!
# Texts of scalars

A scalar is written plain, between quotes, or as a block of indented lines. Where a text goes on
over a line break, the break is folded: one break becomes a space, and of several the first one is
dropped.

## Main definitions

* `plainText`: a plain scalar.
* `quotedText`: a scalar between quotes.
* `blockText`: a block scalar.
-/

namespace SchemaClasses.Yaml

/-- What a break and the breaks after it become when they are folded. -/
def foldBreaks (first : Char) (others : List Char) : List Char :=
  if first ≠ '\n' then first :: others
  else if others.isEmpty then [' ']
  else others

/-- The blanks and breaks between two parts of a plain scalar, folded, and the cursor after them.
`broken` says whether there was a break, and there is no text when a document marker follows one. -/
structure PlainGap where
  text : List Char
  cursor : Cursor
  broken : Bool

/-- Collects further breaks of a plain scalar, with spaces between them, up to a document marker.
The flag says whether there is one. `fuel` bounds the count of characters. -/
def plainBreaks : Nat → List Char → Cursor → List Char × Cursor × Bool
  | 0, breaks, cursor => (breaks, cursor, false)
  | fuel + 1, breaks, cursor =>
    if cursor.head = ' ' then plainBreaks fuel breaks cursor.step
    else match cursor.lineBreak? with
      | some (c, after) =>
        if after.atDocumentMarker then (breaks, after, true)
        else plainBreaks fuel (breaks ++ [c]) after
      | none => (breaks, cursor, false)

def plainGap (cursor : Cursor) : PlainGap :=
  let (spaces, after) := cursor.takeWhile (· = ' ')
  match after.lineBreak? with
  | none => ⟨spaces, after, false⟩
  | some (first, next) =>
    if next.atDocumentMarker then ⟨[], next, true⟩
    else
      let (breaks, last, ended) := plainBreaks next.rest.length [] next
      ⟨if ended then [] else foldBreaks first breaks, last, true⟩

/-- Whether a character ends a part of a plain scalar, given the character after it. -/
def endsPlain (inFlow : Bool) (c next : Char) : Bool :=
  isBlankOrEnd c || (c = ':' && (isBlankOrEnd next || (inFlow && ",[]\x7b\x7d".contains next))) ||
    (inFlow && ",?[]\x7b\x7d".contains c)

def plainLength (inFlow : Bool) : List Char → Nat
  | [] => 0
  | c :: rest =>
    if endsPlain inFlow c (rest.headD endMark) then 0 else plainLength inFlow rest + 1

/-- The text of a plain scalar, the cursor after it, and whether a line break was passed after its
last part. -/
structure PlainText where
  text : List Char
  cursor : Cursor
  broken : Bool

/-- Reads the parts of a plain scalar, after those read already and the gap after these. Outside of
flow collections a line that is indented less ends the scalar. `fuel` bounds the count of
parts. -/
def plainParts (inFlow : Bool) (indent : Nat) :
    Nat → List Char → List Char → Bool → Cursor → PlainText
  | 0, text, _, broken, cursor => ⟨text, cursor, broken⟩
  | fuel + 1, text, gap, broken, cursor =>
    let length := if cursor.head = '#' then 0 else plainLength inFlow cursor.rest
    if length = 0 then ⟨text, cursor, broken⟩
    else
      let text := text ++ gap ++ cursor.rest.take length
      let next := plainGap (cursor.advance length)
      let stops := next.text.isEmpty || next.cursor.head = '#' ||
        (!inFlow && next.cursor.column < indent)
      if stops then ⟨text, next.cursor, next.broken⟩
      else plainParts inFlow indent fuel text next.text next.broken next.cursor

def plainText (inFlow : Bool) (indent : Nat) (cursor : Cursor) : PlainText :=
  plainParts inFlow indent cursor.rest.length [] [] false cursor

def escapedLetter? : Char → Option Char
  | '0' => some endMark
  | 'a' => some (Char.ofNat 0x07)
  | 'b' => some (Char.ofNat 0x08)
  | 't' | '\t' => some '\t'
  | 'n' => some '\n'
  | 'v' => some (Char.ofNat 0x0B)
  | 'f' => some (Char.ofNat 0x0C)
  | 'r' => some '\r'
  | 'e' => some (Char.ofNat 0x1B)
  | ' ' => some ' '
  | '"' => some '"'
  | '\\' => some '\\'
  | '/' => some '/'
  | 'N' => some (Char.ofNat 0x85)
  | '_' => some (Char.ofNat 0xA0)
  | 'L' => some (Char.ofNat 0x2028)
  | 'P' => some (Char.ofNat 0x2029)
  | _ => none

/-- The count of hexadecimal digits after a letter that begins the escape of a code point. -/
def escapeLength? : Char → Option Nat
  | 'x' => some 2
  | 'u' => some 4
  | 'U' => some 8
  | _ => none

/-- A code point as it is collected: surrogates are kept until a pair of them is complete. -/
abbrev CodePoint := Nat

def codePoints (text : List Char) : List CodePoint := text.map Char.toNat

/-- The characters of code points. A high and a low surrogate make one character. -/
def charsOf : List CodePoint → List Char
  | high :: low :: rest =>
    if 0xD800 ≤ high && high < 0xDC00 && 0xDC00 ≤ low && low < 0xE000 then
      Char.ofNat (0x10000 + (high - 0xD800) * 0x400 + (low - 0xDC00)) :: charsOf rest
    else charOf high :: charsOf (low :: rest)
  | [code] => [charOf code]
  | [] => []
where
  charOf (code : CodePoint) : Char :=
    if 0xD800 ≤ code && code < 0xE000 then Char.ofNat 0xFFFD else Char.ofNat code

/-- The code point of hexadecimal digits; there is none beyond the last one. -/
def readCodePoint (digits : List Char) : Except Failure CodePoint :=
  match Text.hexNumber? digits with
  | none => malformed
  | some code =>
    if code < 0x110000 then .ok code
    else if code < 0x80000000 then .error (.invalidValue .codePointOutOfRange)
    else .error .numberTooLarge

/-- Collects the breaks between the lines of a quoted scalar, with blanks around them; no document
marker may stand at the start of a line. `fuel` bounds the count of lines. -/
def quotedBreaks : Nat → List Char → Cursor → Except Failure (List Char × Cursor)
  | 0, breaks, cursor => .ok (breaks, cursor)
  | fuel + 1, breaks, cursor =>
    if cursor.atDocumentMarker then malformed
    else
      let cursor := cursor.skipWhile fun c => c = ' ' || c = '\t'
      match cursor.lineBreak? with
      | some (c, after) => quotedBreaks fuel (breaks ++ [c]) after
      | none => .ok (breaks, cursor)

/-- The blanks or the folded breaks at the cursor, and the cursor after them. -/
def quotedGap (cursor : Cursor) : Except Failure (List Char × Cursor) :=
  let (blanks, after) := cursor.takeWhile fun c => c = ' ' || c = '\t'
  match after.lineBreak? with
  | some (first, next) => do
    let (breaks, last) ← quotedBreaks (next.rest.length + 1) [] next
    return (foldBreaks first breaks, last)
  | none => if after.head = endMark then malformed else .ok (blanks, after)

/-- What an escape at the cursor, after its backslash, stands for. An escaped break vanishes with
the blanks after it. -/
def readEscape (cursor : Cursor) : Except Failure (List CodePoint × Cursor) :=
  let letter := cursor.head
  match escapedLetter? letter, escapeLength? letter with
  | some c, _ => .ok ([c.toNat], cursor.step)
  | none, some length => do
    let after := cursor.step
    let digits := after.rest.take length
    if digits.length < length then malformed
    else
      let code ← readCodePoint digits
      return ([code], after.advance length)
  | none, none =>
    match cursor.lineBreak? with
    | some (_, after) => do
      let (breaks, last) ← quotedBreaks (after.rest.length + 1) [] after
      return (codePoints breaks, last)
    | none => malformed

/-- Reads a scalar up to its closing quote, after the code points read already. `fuel` bounds the
count of parts. -/
def quotedParts (quote : Char) :
    Nat → List CodePoint → Cursor → Except Failure (List CodePoint × Cursor)
  | 0, _, _ => malformed
  | fuel + 1, text, cursor =>
    let c := cursor.head
    if c = quote then
      if quote = '\'' && cursor.peek 1 = '\'' then
        quotedParts quote fuel (text ++ [c.toNat]) (cursor.advance 2)
      else .ok (text, cursor.step)
    else if c = '\\' && quote = '"' then do
      let (codes, after) ← readEscape cursor.step
      quotedParts quote fuel (text ++ codes) after
    else if isBlankOrEnd c then do
      let (gap, after) ← quotedGap cursor
      quotedParts quote fuel (text ++ codePoints gap) after
    else
      let plain (c : Char) : Bool := !isBlankOrEnd c && c ≠ quote && (c ≠ '\\' || quote ≠ '"')
      let (part, after) := cursor.takeWhile plain
      quotedParts quote fuel (text ++ codePoints part) after

def quotedText (cursor : Cursor) : Except Failure (List Char × Cursor) := do
  let (codes, after) ←
    quotedParts cursor.head (2 * cursor.rest.length + 2) [] cursor.step
  return (charsOf codes, after)

/-- What happens to the breaks at the end of a block scalar. -/
inductive Chomping where
  /-- All of them are dropped. -/
  | strip
  /-- The first one is kept. -/
  | clip
  /-- All of them are kept. -/
  | keep
deriving DecidableEq

/-- The head of a block scalar: what happens to its last breaks, and its indentation, if it is
given. -/
structure BlockHead where
  chomping : Chomping := .clip
  indent? : Option Nat := none

def chomping? : Char → Option Chomping
  | '+' => some .keep
  | '-' => some .strip
  | _ => none

/-- The indentation that a character stands for; it is not zero. -/
def indentDigit? (c : Char) : Except Failure (Option Nat) :=
  if c = '0' then malformed
  else if c.isDigit then .ok (some (c.toNat - '0'.toNat))
  else .ok none

/-- The head of a block scalar, after the mark that begins it, and the cursor after the line. -/
def blockHead (cursor : Cursor) : Except Failure (BlockHead × Cursor) := do
  let (head, cursor) ← match chomping? cursor.head with
    | some chomping => do
      let cursor := cursor.step
      let indent? ← indentDigit? cursor.head
      pure ({ chomping, indent? : BlockHead }, if indent?.isSome then cursor.step else cursor)
    | none => do
      match ← indentDigit? cursor.head with
      | some indent =>
        let cursor := cursor.step
        match chomping? cursor.head with
        | some chomping => pure ({ chomping, indent? := some indent : BlockHead }, cursor.step)
        | none => pure ({ indent? := some indent : BlockHead }, cursor)
      | none => pure ({}, cursor)
  if !isSpaceOrEnd cursor.head then malformed
  else return (head, ← cursor.finishLine)

/-- The cursor after spaces, as long as its column is below an indentation. -/
def skipIndent : Nat → Nat → Cursor → Cursor
  | 0, _, cursor => cursor
  | fuel + 1, indent, cursor =>
    if cursor.column < indent && cursor.head = ' ' then skipIndent fuel indent cursor.step
    else cursor

/-- Collects the breaks of empty lines, whose spaces do not go beyond an indentation. `fuel` bounds
the count of lines. -/
def blockBreaks (indent : Nat) : Nat → List Char → Cursor → List Char × Cursor
  | 0, breaks, cursor => (breaks, cursor)
  | fuel + 1, breaks, cursor =>
    let cursor := skipIndent indent indent cursor
    match cursor.lineBreak? with
    | some (c, after) => blockBreaks indent fuel (breaks ++ [c]) after
    | none => (breaks, cursor)

/-- Collects the breaks before the first line of a block scalar, and finds the largest indentation
up to there. `fuel` bounds the count of characters. -/
def leadingBreaks : Nat → List Char → Nat → Cursor → List Char × Nat × Cursor
  | 0, breaks, indent, cursor => (breaks, indent, cursor)
  | fuel + 1, breaks, indent, cursor =>
    if cursor.head = ' ' then
      let after := cursor.step
      leadingBreaks fuel breaks (max indent after.column) after
    else match cursor.lineBreak? with
      | some (c, after) => leadingBreaks fuel (breaks ++ [c]) indent after
      | none => (breaks, indent, cursor)

/-- The lines of a block scalar: their text, the break after the last of them, and the breaks of the
empty lines after that. -/
structure BlockLines where
  text : List Char
  lastBreak : List Char
  breaks : List Char
  cursor : Cursor

/-- Whether the line at the cursor begins with a blank, so that the break before it is not
folded. -/
def startsBlank (cursor : Cursor) : Bool := cursor.head = ' ' || cursor.head = '\t'

/-- What a break between two lines becomes. In a folded scalar it becomes a space, or nothing when
empty lines follow, unless one of the two lines begins with a blank. -/
def blockBreak (folded startedBlank : Bool) (lastBreak breaks : List Char) (next : Cursor) :
    List Char :=
  if folded && lastBreak = ['\n'] && !startedBlank && !startsBlank next then
    if breaks.isEmpty then [' '] else []
  else lastBreak

/-- Reads the lines of a block scalar, after those read already and the breaks after these. `fuel`
bounds the count of lines. -/
def blockLines (folded : Bool) (indent : Nat) : Nat → BlockLines → BlockLines
  | 0, lines => lines
  | fuel + 1, lines =>
    let cursor := lines.cursor
    if cursor.column ≠ indent || cursor.head = endMark then lines
    else
      let (line, after) := cursor.takeWhile (!isBreakOrEnd ·)
      let (lastBreak, after) := match after.lineBreak? with
        | some (c, next) => ([c], next)
        | none => ([], after)
      let (breaks, next) := blockBreaks indent (after.rest.length + 1) [] after
      let text := lines.text ++ lines.breaks ++ line
      if next.column = indent && next.head ≠ endMark then
        let joint := blockBreak folded (startsBlank cursor) lastBreak breaks next
        blockLines folded indent fuel ⟨text ++ joint, lastBreak, breaks, next⟩
      else ⟨text, lastBreak, breaks, next⟩

/-- A block scalar at the cursor, in a block whose contents are indented by at least the given
number of columns. -/
def blockText (minIndent : Nat) (cursor : Cursor) : Except Failure (List Char × Cursor) := do
  let folded := cursor.head = '>'
  let (head, cursor) ← blockHead cursor.step
  let fuel := cursor.rest.length + 1
  let (indent, breaks, cursor) := match head.indent? with
    | some extra =>
      let indent := minIndent + extra - 1
      let (breaks, cursor) := blockBreaks indent fuel [] cursor
      (indent, breaks, cursor)
    | none =>
      let (breaks, widest, cursor) := leadingBreaks fuel [] 0 cursor
      (max minIndent widest, breaks, cursor)
  let lines := blockLines folded indent fuel ⟨[], [], breaks, cursor⟩
  let text := match head.chomping with
    | .strip => lines.text
    | .clip => lines.text ++ lines.lastBreak
    | .keep => lines.text ++ lines.lastBreak ++ lines.breaks
  return (text, lines.cursor)

end SchemaClasses.Yaml
