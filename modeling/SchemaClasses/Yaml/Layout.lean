import SchemaClasses.Yaml.Token

/-!
# Layout

The tokens of a text in order, those included that the layout implies. Indentation opens and closes
blocks; a scalar or a collection that a colon follows on the same line is a key, and the tokens that
say so are put before it afterwards.

## Main definitions

* `Layout`: what is known of the layout at a place in the text.
* `Token.ofText`: the tokens of a text.
-/

namespace SchemaClasses.Yaml

structure KeyPlace where
  /-- The count of tokens before the place. -/
  position : Nat
  /-- Whether a key must stand there: it is the first thing on a line of a block mapping. -/
  required : Bool
  index : Nat
  line : Nat
  column : Nat

structure Layout where
  cursor : Cursor
  /-- The tokens so far, last one first. -/
  tokens : List Token := []
  /-- The count of open flow collections. -/
  flowDepth : Nat := 0
  /-- The columns of the open blocks, innermost first. -/
  blocks : List Nat := []
  /-- Whether a key may begin at the next token. -/
  keyAllowed : Bool := true
  /-- The places where a key may have begun, by the count of flow collections open there. -/
  keys : List (Nat × KeyPlace) := []

namespace Layout

def inFlow (layout : Layout) : Bool := layout.flowDepth ≠ 0

def add (layout : Layout) (token : Token) (cursor : Cursor) : Layout :=
  { layout with tokens := token :: layout.tokens, cursor }

def insert (layout : Layout) (position : Nat) (token : Token) : Layout :=
  let (after, before) := layout.tokens.splitAt (layout.tokens.length - position)
  { layout with tokens := after ++ token :: before }

/-- Forgets the place of a key at the current depth; a required key must not be forgotten. -/
def dropKey (layout : Layout) : Except Failure Layout :=
  match layout.keys.lookup layout.flowDepth with
  | some place =>
    if place.required then malformed
    else .ok { layout with keys := layout.keys.filter (·.1 ≠ layout.flowDepth) }
  | none => .ok layout

/-- Whether a key that begins at a place would no longer be short enough at the cursor: on another
line, or more than 1024 characters back. -/
def isStale (layout : Layout) (place : KeyPlace) : Bool :=
  place.line ≠ layout.cursor.line || place.index + 1024 < layout.cursor.index

def dropStaleKeys (layout : Layout) : Except Failure Layout :=
  if layout.keys.any fun (_, place) => layout.isStale place && place.required then malformed
  else .ok { layout with keys := layout.keys.filter fun (_, place) => !layout.isStale place }

def noteKey (layout : Layout) : Except Failure Layout :=
  if !layout.keyAllowed then .ok layout
  else do
    let layout ← layout.dropKey
    let cursor := layout.cursor
    let place : KeyPlace := {
      position := layout.tokens.length
      required := !layout.inFlow && layout.blocks.head? = some cursor.column
      index := cursor.index, line := cursor.line, column := cursor.column }
    return { layout with keys := layout.keys ++ [(layout.flowDepth, place)] }

/-- Closes the blocks that are indented by more than a number of columns. Nothing is closed in flow
collections. -/
def closeBlocks (layout : Layout) (column : Nat) : Layout :=
  if layout.inFlow then layout
  else
    let closed := layout.blocks.takeWhile (column < ·)
    { layout with
      blocks := layout.blocks.drop closed.length
      tokens := List.replicate closed.length .blockEnd ++ layout.tokens }

def closeAllBlocks (layout : Layout) : Layout :=
  if layout.inFlow then layout
  else { layout with
    blocks := [], tokens := List.replicate layout.blocks.length .blockEnd ++ layout.tokens }

def opensBlock (layout : Layout) (column : Nat) : Bool :=
  match layout.blocks with
  | [] => true
  | innermost :: _ => innermost < column

/-- Opens a block at a column, if it is indented by more than the innermost one; its token is put at
a position. -/
def openBlock (layout : Layout) (column position : Nat) (token : Token) : Layout :=
  if layout.opensBlock column then
    { layout.insert position token with blocks := column :: layout.blocks }
  else layout

/-- Goes on over blanks, comments and line breaks. After a break outside of flow collections a key
is allowed. `fuel` bounds the count of lines. -/
def skipToToken : Nat → Layout → Layout
  | 0, layout => layout
  | fuel + 1, layout =>
    let cursor := (layout.cursor.skipWhile (· = ' ')).skipComment
    match cursor.lineBreak? with
    | some (_, after) =>
      skipToToken fuel
        { layout with cursor := after, keyAllowed := layout.keyAllowed || !layout.inFlow }
    | none => { layout with cursor }

/-- Reads a directive or a marker between documents, which closes all blocks. -/
def readMarker (layout : Layout) (read : Cursor → Except Failure (Token × Cursor)) :
    Except Failure Layout := do
  let layout ← layout.closeAllBlocks.dropKey
  let (token, after) ← read layout.cursor
  return { layout with keyAllowed := false }.add token after

def openFlow (layout : Layout) (token : Token) : Except Failure Layout := do
  let layout ← layout.noteKey
  return { layout with flowDepth := layout.flowDepth + 1, keyAllowed := true }.add token
    layout.cursor.step

def closeFlow (layout : Layout) (token : Token) : Except Failure Layout := do
  if !layout.inFlow then malformed
  else
    let layout ← layout.dropKey
    return { layout with flowDepth := layout.flowDepth - 1, keyAllowed := false }.add token
      layout.cursor.step

def readFlowEntry (layout : Layout) : Except Failure Layout := do
  let layout ← layout.dropKey
  return { layout with keyAllowed := true }.add .flowEntry layout.cursor.step

def openBlockHere (layout : Layout) (token : Token) : Except Failure Layout :=
  if layout.inFlow then .ok layout
  else if !layout.keyAllowed then malformed
  else .ok (layout.openBlock layout.cursor.column layout.tokens.length token)

def readBlockEntry (layout : Layout) : Except Failure Layout := do
  let layout ← (← layout.openBlockHere .blockSequenceStart).dropKey
  return { layout with keyAllowed := true }.add .blockEntry layout.cursor.step

def readKey (layout : Layout) : Except Failure Layout := do
  let layout ← (← layout.openBlockHere .blockMappingStart).dropKey
  return { layout with keyAllowed := !layout.inFlow }.add .key layout.cursor.step

/-- Reads the mark of a value. If a key may have begun at the current depth, it has, and the tokens
that say so are put before it. -/
def readValue (layout : Layout) : Except Failure Layout :=
  match layout.keys.lookup layout.flowDepth with
  | some place =>
    let layout := { layout with keys := layout.keys.filter (·.1 ≠ layout.flowDepth) }
    let layout := layout.insert place.position .key
    let layout :=
      if layout.inFlow then layout
      else layout.openBlock place.column place.position .blockMappingStart
    .ok ({ layout with keyAllowed := false }.add .value layout.cursor.step)
  | none => do
    let layout ← (← layout.openBlockHere .blockMappingStart).dropKey
    return { layout with keyAllowed := !layout.inFlow }.add .value layout.cursor.step

/-- Reads a token that may be a key, or stand before one. -/
def readKeyPart (layout : Layout) (read : Cursor → Except Failure (Token × Cursor)) :
    Except Failure Layout := do
  let layout ← layout.noteKey
  let (token, after) ← read layout.cursor
  return { layout with keyAllowed := false }.add token after

def contentIndent (layout : Layout) : Nat :=
  match layout.blocks with
  | [] => 0
  | column :: _ => column + 1

def readBlockScalar (layout : Layout) : Except Failure Layout := do
  let layout ← layout.dropKey
  let (text, after) ← blockText (max 1 layout.contentIndent) layout.cursor
  return { layout with keyAllowed := true }.add (.scalar (String.ofList text) false) after

/-- Reads a plain scalar. A key is allowed after it if it ends at a line break. -/
def readPlainScalar (layout : Layout) : Except Failure Layout := do
  let layout ← layout.noteKey
  let scalar := plainText layout.inFlow layout.contentIndent layout.cursor
  return { layout with keyAllowed := scalar.broken }.add
    (.scalar (String.ofList scalar.text) true) scalar.cursor

/-- Whether a mark at the cursor stands alone: in flow collections always, else before a blank. -/
def standsAlone (layout : Layout) : Bool := layout.inFlow || isBlankOrEnd (layout.cursor.peek 1)

def startsPlain (layout : Layout) : Bool :=
  let c := layout.cursor.head
  let goesOn := !isBlankOrEnd (layout.cursor.peek 1)
  !(isBlankOrEnd c || "-?:,[]\x7b\x7d#&*!|>'\"%@\x60".contains c) ||
    (goesOn && (c = '-' || (!layout.inFlow && (c = '?' || c = ':'))))

def readToken (layout : Layout) : Except Failure Layout :=
  let cursor := layout.cursor
  let c := cursor.head
  let atLineStart := cursor.column = 0
  if c = '%' && atLineStart then layout.readMarker readDirective
  else if atLineStart && cursor.atMarker '-' then
    layout.readMarker fun cursor => .ok (.documentStart, cursor.advance 3)
  else if atLineStart && cursor.atMarker '.' then
    layout.readMarker fun cursor => .ok (.documentEnd, cursor.advance 3)
  else if c = '[' then layout.openFlow .flowSequenceStart
  else if c = '\x7b' then layout.openFlow .flowMappingStart
  else if c = ']' then layout.closeFlow .flowSequenceEnd
  else if c = '\x7d' then layout.closeFlow .flowMappingEnd
  else if c = ',' then layout.readFlowEntry
  else if c = '-' && isBlankOrEnd (cursor.peek 1) then layout.readBlockEntry
  else if c = '?' && layout.standsAlone then layout.readKey
  else if c = ':' && layout.standsAlone then layout.readValue
  else if c = '*' then layout.readKeyPart fun cursor => do
    let (name, after) ← readName cursor.step
    return (.alias name, after)
  else if c = '&' then layout.readKeyPart fun cursor => do
    let (name, after) ← readName cursor.step
    return (.anchor name, after)
  else if c = '!' then layout.readKeyPart fun cursor => do
    let (tag, after) ← readTag cursor
    return (.tag tag, after)
  else if (c = '|' || c = '>') && !layout.inFlow then layout.readBlockScalar
  else if c = '\'' || c = '"' then layout.readKeyPart fun cursor => do
    let (text, after) ← quotedText cursor
    return (.scalar (String.ofList text) false, after)
  else if layout.startsPlain then layout.readPlainScalar
  else malformed

def readOn (layout : Layout) : Except Failure Layout := do
  let layout ← (skipToToken (layout.cursor.rest.length + 1) layout).dropStaleKeys
  let layout := layout.closeBlocks layout.cursor.column
  if layout.cursor.head = endMark then
    return (← layout.closeAllBlocks.dropKey).add .streamEnd layout.cursor
  else layout.readToken

/-- The count of tokens that are certain: no mark of a key can be put before them any more. -/
def certain (layout : Layout) : Nat :=
  let places := layout.keys.filter fun (_, place) => !layout.isStale place
  places.foldl (fun count (_, place) => min count place.position) layout.tokens.length

/-- The tokens of a text that cannot be read on: those that are certain, and the failure. -/
def brokenOff (layout : Layout) (failure : Failure) : List Token :=
  layout.tokens.reverse.take layout.certain ++ [.broken failure]

/-- The tokens up to the end of the text, or up to where it cannot be read on. `fuel` bounds their
count, each of them taking up characters of the text. -/
def readTokens : Nat → Layout → List Token
  | 0, layout => layout.brokenOff .malformedYaml
  | fuel + 1, layout =>
    match layout.readOn with
    | .error failure => layout.brokenOff failure
    | .ok next =>
      if next.tokens.head? = some .streamEnd then next.tokens.reverse else readTokens fuel next

end Layout

/-- The tokens of a text. A byte order mark at its start is passed over. -/
def Token.ofText (text : List Char) : List Token :=
  if !text.all isAllowed then [.broken .malformedYaml]
  else
    let cursor : Cursor := { rest := text }
    let start := if cursor.head = byteOrderMark then cursor.step else cursor
    Layout.readTokens (text.length + 1) { cursor := start }

end SchemaClasses.Yaml
