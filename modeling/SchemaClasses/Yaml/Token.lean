import SchemaClasses.Number.Decimal
import SchemaClasses.Text.Utf8
import SchemaClasses.Yaml.Folding

/-!
# Tokens

The tokens of a YAML text. Some of them stand in the text; the others are implied by the
indentation. Where a text cannot be read on, a last token tells why, so that what stands before can
still be found faulty first.

## Main definitions

* `Token`: a token.
* `readName`, `readTag`, `readDirective`: the tokens that have parts of their own.
-/

namespace SchemaClasses.Yaml

/-- A tag as it is written: a handle, which stands for the start of the tag, and the rest of it. A
tag between angle brackets has no handle. -/
structure WrittenTag where
  handle? : Option String
  suffix : String
deriving DecidableEq

inductive Token where
  /-- The version of the language, by its first number. -/
  | version (major : Nat)
  /-- A handle for the start of tags. -/
  | tagHandle (handle start : String)
  /-- Any other directive. -/
  | directive
  | documentStart
  | documentEnd
  | blockSequenceStart
  | blockMappingStart
  | blockEnd
  | flowSequenceStart
  | flowSequenceEnd
  | flowMappingStart
  | flowMappingEnd
  | flowEntry
  | blockEntry
  | key
  | value
  | alias (name : String)
  | anchor (name : String)
  | tag (tag : WrittenTag)
  /-- A scalar; plain ones may stand for other things than texts. -/
  | scalar (text : String) (plain : Bool)
  | streamEnd
  /-- The text cannot be read on from here. -/
  | broken (failure : Failure)
deriving DecidableEq

def isNameChar (c : Char) : Bool := c.isAlphanum || c = '-' || c = '_'

/-- Whether a character may stand in a tag; a percent sign begins an encoded byte there. -/
def isTagChar (c : Char) : Bool := c.isAlphanum || "-;/?:@&=+$,_.!~*'()[]%".contains c

def readName (cursor : Cursor) : Except Failure (String × Cursor) :=
  let (name, after) := cursor.takeWhile isNameChar
  let ends (c : Char) : Bool := isBlankOrEnd c || "?:,]\x7d%@\x60".contains c
  if name.isEmpty || !ends after.head then malformed else .ok (String.ofList name, after)

/-- The bytes that percent signs and two digits each stand for at the start of a text, and the count
of their characters. -/
def encodedBytes : List Char → Except Failure (List Nat)
  | '%' :: a :: b :: rest =>
    match Text.hexNumber? [a, b] with
    | some byte => do return byte :: (← encodedBytes rest)
    | none => malformed
  | '%' :: _ => malformed
  | _ => .ok []

/-- The text of a tag at the cursor, its encoded bytes being UTF-8. `fuel` bounds the count of
parts. -/
def tagParts : Nat → List Char → Cursor → Except Failure (List Char × Cursor)
  | 0, text, cursor => .ok (text, cursor)
  | fuel + 1, text, cursor =>
    if cursor.head = '%' then do
      let bytes ← encodedBytes cursor.rest
      match Text.decodeUtf8? bytes with
      | some chars => tagParts fuel (text ++ chars) (cursor.advance (3 * bytes.length))
      | none => malformed
    else if isTagChar cursor.head then
      let (part, after) := cursor.takeWhile fun c => isTagChar c && c ≠ '%'
      tagParts fuel (text ++ part) after
    else .ok (text, cursor)

def readTagText (cursor : Cursor) : Except Failure (String × Cursor) :=
  if !isTagChar cursor.head then malformed
  else do
    let (text, after) ← tagParts cursor.rest.length [] cursor
    return (String.ofList text, after)

/-- The handle of a tag at the cursor: one exclamation mark before a space, or two with a name
between them. -/
def readHandle (cursor : Cursor) : Except Failure (String × Cursor) :=
  if cursor.head ≠ '!' then malformed
  else if cursor.peek 1 = ' ' then .ok ("!", cursor.step)
  else
    let (name, after) := cursor.step.takeWhile isNameChar
    if after.head = '!' then .ok (String.ofList ('!' :: (name ++ ['!'])), after.step) else malformed

def readTag (cursor : Cursor) : Except Failure (WrittenTag × Cursor) := do
  let next := cursor.peek 1
  let (tag, after) ←
    if next = '<' then do
      let (text, after) ← readTagText (cursor.advance 2)
      if after.head = '>' then pure ((⟨none, text⟩ : WrittenTag), after.step) else malformed
    else if isBlankOrEnd next then pure (⟨none, "!"⟩, cursor.step)
    else do
      let word := cursor.rest.tail.takeWhile (!isSpaceOrEnd ·)
      let (handle, after) ←
        if word.contains '!' then readHandle cursor else pure ("!", cursor.step)
      let (text, after) ← readTagText after
      pure (⟨some handle, text⟩, after)
  if isSpaceOrEnd after.head then return (tag, after) else malformed

def readVersionNumber (cursor : Cursor) : Except Failure (Nat × Cursor) :=
  let (digits, after) := cursor.takeWhile Char.isDigit
  if digits.isEmpty then malformed else (·, after) <$> readDigits digits

def readVersion (cursor : Cursor) : Except Failure (Token × Cursor) := do
  let (major, after) ← readVersionNumber (cursor.skipWhile (· = ' '))
  if after.head ≠ '.' then malformed
  else
    let (_, after) ← readVersionNumber after.step
    if isSpaceOrEnd after.head then return (.version major, after) else malformed

/-- The handle of a directive, and the start of the tags that it stands for. -/
def readTagHandle (cursor : Cursor) : Except Failure (Token × Cursor) := do
  let (handle, after) ← readHandle (cursor.skipWhile (· = ' '))
  if after.head ≠ ' ' then malformed
  else
    let (start, after) ← readTagText (after.skipWhile (· = ' '))
    if isSpaceOrEnd after.head then return (.tagHandle handle start, after) else malformed

/-- The directive at the cursor, and the cursor after its line. -/
def readDirective (cursor : Cursor) : Except Failure (Token × Cursor) := do
  let (name, after) := cursor.step.takeWhile isNameChar
  if name.isEmpty || !isSpaceOrEnd after.head then malformed
  else
    let (token, after) ← match String.ofList name with
      | "YAML" => readVersion after
      | "TAG" => readTagHandle after
      | _ => pure (.directive, after.skipWhile (!isBreakOrEnd ·))
    return (token, ← after.finishLine)

end SchemaClasses.Yaml
