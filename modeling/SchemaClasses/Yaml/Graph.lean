import SchemaClasses.Yaml.Layout
import SchemaClasses.Yaml.Tag

/-!
# Document graphs

The nodes of a YAML document, read from its tokens. A node with parts refers to them by their places
in the document, so that an alias is the place of the node with its anchor; it may stand inside that
node. A text holds at most one document.

## Main definitions

* `Vertex`: a node with its tag and the places of its parts.
* `Graph`: the nodes of a document.
* `Graph.read`: the document of a text.
-/

namespace SchemaClasses.Yaml

inductive Content where
  | scalar (text : String)
  | sequence (items : List Nat)
  | mapping (entries : List (Nat × Nat))

structure Vertex where
  tag : Tag
  content : Content

/-- The node where nothing is written. -/
def Vertex.empty : Vertex := ⟨.null, .scalar ""⟩

/-- The nodes of a document, and the place of the one that holds the others. -/
structure Graph where
  vertices : Array Vertex
  root : Nat

namespace Graph

structure Reading where
  tokens : List Token
  /-- The starts of tags that handles stand for. -/
  handles : List (String × String) := []
  /-- The places of the nodes with anchors. -/
  anchors : List (String × Nat) := []
  vertices : Array Vertex := #[]

abbrev Read := StateT Reading (Except Failure)

def fail {α : Type} : Read α := throw .malformedYaml

/-- The next token, unless the text is broken off there. -/
def next : Read Token := do
  match (← get).tokens with
  | .broken failure :: _ => throw failure
  | token :: _ => return token
  | [] => return .streamEnd

def skip : Read Unit := modify fun reading => { reading with tokens := reading.tokens.drop 1 }

def expect (token : Token) : Read Unit := do
  if (← next) = token then skip else fail

structure Properties where
  anchor? : Option String := none
  tag? : Option WrittenTag := none

def readProperties : Read Properties := do
  match ← next with
  | .anchor name =>
    skip
    match ← next with
    | .tag tag => do skip; return ⟨some name, some tag⟩
    | _ => return ⟨some name, none⟩
  | .tag tag =>
    skip
    match ← next with
    | .anchor name => do skip; return ⟨some name, some tag⟩
    | _ => return ⟨none, some tag⟩
  | _ => return {}

/-- The full name of a written tag, whose handle must be declared. The tag that is an exclamation
mark alone says nothing, and has none. -/
def tagName (tag? : Option WrittenTag) : Read (Option String) := do
  match tag? with
  | none => return none
  | some tag =>
    let name ← match tag.handle? with
      | none => pure tag.suffix
      | some handle =>
        match (← get).handles.lookup handle with
        | some start => pure (start ++ tag.suffix)
        | none => fail
    return if name = "!" then none else some name

/-- The tag of a scalar. A plain scalar, and one with an empty tag, has the tag that its text
implies. -/
def scalarTag (name? : Option String) (implied : Bool) (text : String) : Tag :=
  match name? with
  | some name => .ofName name
  | none => if implied then .ofPlain text else .str

def add (vertex : Vertex) : Read Nat := do
  let reading ← get
  set { reading with vertices := reading.vertices.push vertex }
  return reading.vertices.size

def addAnchored (anchor? : Option String) (vertex : Vertex) : Read Nat := do
  match anchor? with
  | none => add vertex
  | some name =>
    if (← get).anchors.any (·.1 = name) then fail
    else
      let place ← add vertex
      modify fun reading => { reading with anchors := (name, place) :: reading.anchors }
      return place

/-- Gives the node at a place the parts that have been read. -/
def complete (place : Nat) (content : Content) : Read Nat := do
  modify fun reading => { reading with
    vertices := reading.vertices.modify place fun vertex => { vertex with content } }
  return place

def aliased (name : String) : Read Nat := do
  match (← get).anchors.lookup name with
  | some place => return place
  | none => fail

/-- Where a node stands: in a flow collection, in a block, or as the key or value of a block
mapping, where a sequence need not be indented. -/
inductive Surroundings where
  | flow
  | block
  | mappingPart
deriving DecidableEq

/-- Whether a token ends a part of a block mapping without a node. -/
def endsMappingPart : Token → Bool
  | .key | .value | .blockEnd => true
  | _ => false

inductive Form where
  | scalar (text : String) (plain : Bool)
  | flowSequence
  | flowMapping
  | blockSequence
  | looseSequence
  | blockMapping
  /-- Nothing is written after the anchor or the tag. -/
  | nothing

/-- The form of a node by its first token, if the node can begin with that; `named` tells whether it
has an anchor or a tag. -/
def Form.ofToken? (around : Surroundings) (named : Bool) : Token → Option Form
  | .scalar text plain => some (.scalar text plain)
  | .flowSequenceStart => some .flowSequence
  | .flowMappingStart => some .flowMapping
  | token =>
    if token = .blockEntry && around = .mappingPart then some .looseSequence
    else if token = .blockSequenceStart && around ≠ .flow then some .blockSequence
    else if token = .blockMappingStart && around ≠ .flow then some .blockMapping
    else if named then some .nothing
    else none

mutual

/-- Reads a node, and gives its place. `fuel` bounds the depth of the calls. -/
def readNode (around : Surroundings) : Nat → Read Nat
  | 0 => fail
  | fuel + 1 => do
    match ← next with
    | .alias name => do skip; aliased name
    | _ =>
      let properties ← readProperties
      let name? ← tagName properties.tag?
      let named := properties.anchor?.isSome || properties.tag?.isSome
      let addList := addAnchored properties.anchor?
        ⟨(name?.map Tag.ofName).getD .seq, .sequence []⟩
      let addMap := addAnchored properties.anchor?
        ⟨(name?.map Tag.ofName).getD .map, .mapping []⟩
      match Form.ofToken? around named (← next) with
      | none => fail
      | some (.scalar text plain) =>
        skip
        let implied := (plain && properties.tag?.isNone) ||
          (properties.tag?.isSome && name?.isNone)
        addAnchored properties.anchor? ⟨scalarTag name? implied text, .scalar text⟩
      | some .nothing => addAnchored properties.anchor? ⟨scalarTag name? true "", .scalar ""⟩
      | some .flowSequence =>
        let place ← addList
        skip
        complete place (.sequence (← readFlowItems fuel true))
      | some .blockSequence =>
        let place ← addList
        skip
        complete place (.sequence (← readBlockItems fuel))
      | some .looseSequence =>
        let place ← addList
        complete place (.sequence (← readLooseItems fuel))
      | some .flowMapping =>
        let place ← addMap
        skip
        complete place (.mapping (← readFlowEntries fuel true))
      | some .blockMapping =>
        let place ← addMap
        skip
        complete place (.mapping (← readBlockEntries fuel))

def readBlockItems : Nat → Read (List Nat)
  | 0 => fail
  | fuel + 1 => do
    match ← next with
    | .blockEntry =>
      skip
      let after ← next
      let item ←
        if after = .blockEntry || after = .blockEnd then add .empty else readNode .block fuel
      return item :: (← readBlockItems fuel)
    | .blockEnd => do skip; return []
    | _ => fail

/-- Reads the items of a block sequence that is indented no more than the mapping around it. -/
def readLooseItems : Nat → Read (List Nat)
  | 0 => fail
  | fuel + 1 => do
    if (← next) ≠ .blockEntry then return []
    else
      skip
      let after ← next
      let item ←
        if after = .blockEntry || endsMappingPart after then add .empty else readNode .block fuel
      return item :: (← readLooseItems fuel)

def readBlockEntries : Nat → Read (List (Nat × Nat))
  | 0 => fail
  | fuel + 1 => do
    match ← next with
    | .key =>
      skip
      let key ← readMappingPart fuel
      let value ←
        if (← next) = .value then do skip; readMappingPart fuel
        else add .empty
      return (key, value) :: (← readBlockEntries fuel)
    | .blockEnd => do skip; return []
    | _ => fail

def readMappingPart : Nat → Read Nat
  | 0 => fail
  | fuel + 1 => do
    if endsMappingPart (← next) then add .empty else readNode .mappingPart fuel

/-- Reads the items of a flow sequence, up to its end. An item that is a pair is a mapping of its
own. -/
def readFlowItems : Nat → Bool → Read (List Nat)
  | 0, _ => fail
  | fuel + 1, first => do
    if (← next) = .flowSequenceEnd then do skip; return []
    else
      if !first then expect .flowEntry
      match ← next with
      | .flowSequenceEnd => do skip; return []
      | .key =>
        let pair ← add ⟨.map, .mapping []⟩
        skip
        let key ← readFlowPart .flowSequenceEnd fuel
        let value ← readFlowValue .flowSequenceEnd fuel
        let item ← complete pair (.mapping [(key, value)])
        return item :: (← readFlowItems fuel false)
      | _ =>
        let item ← readNode .flow fuel
        return item :: (← readFlowItems fuel false)

def readFlowEntries : Nat → Bool → Read (List (Nat × Nat))
  | 0, _ => fail
  | fuel + 1, first => do
    if (← next) = .flowMappingEnd then do skip; return []
    else
      if !first then expect .flowEntry
      match ← next with
      | .flowMappingEnd => do skip; return []
      | .key =>
        skip
        let key ← readFlowPart .flowMappingEnd fuel
        let value ← readFlowValue .flowMappingEnd fuel
        return (key, value) :: (← readFlowEntries fuel false)
      | _ =>
        let key ← readNode .flow fuel
        let value ← add .empty
        return (key, value) :: (← readFlowEntries fuel false)

/-- Reads the value of a pair in a flow collection with the given end, which may be left out. -/
def readFlowValue (close : Token) : Nat → Read Nat
  | 0 => fail
  | fuel + 1 => do
    if (← next) ≠ .value then add .empty
    else
      skip
      let after ← next
      if after = .flowEntry || after = close then add .empty else readNode .flow fuel

def readFlowPart (close : Token) : Nat → Read Nat
  | 0 => fail
  | fuel + 1 => do
    let after ← next
    if after = .value || after = .flowEntry || after = close then add .empty
    else readNode .flow fuel

end

def standardHandles : List (String × String) := [("!", "!"), ("!!", standardStart)]

/-- Reads the directives before a document: at most one version, which must begin with one, and
handles, each declared once. -/
def readDirectives (versioned : Bool) (handles : List (String × String)) :
    List Token → Except Failure (List (String × String) × List Token)
  | .version major :: rest =>
    if versioned || major ≠ 1 then malformed else readDirectives true handles rest
  | .tagHandle handle start :: rest =>
    if handles.any (·.1 = handle) then malformed
    else readDirectives versioned (handles ++ [(handle, start)]) rest
  | .directive :: rest => readDirectives versioned handles rest
  | .broken failure :: _ => .error failure
  | rest => .ok (handles, rest)

def readingDepth (tokens : List Token) : Nat := 3 * tokens.length + 3

/-- Checks that nothing but marks of the end of a document is left. The directives of a further
document are read before it is refused. -/
def checkEnd (tokens : List Token) : Except Failure Unit :=
  match tokens.dropWhile (· = .documentEnd) with
  | .streamEnd :: _ => .ok ()
  | rest => do
    let _ ← readDirectives false [] rest
    malformed

def endsDocument : Token → Bool
  | .version _ | .tagHandle .. | .directive | .documentStart | .documentEnd | .streamEnd => true
  | _ => false

def readContent (handles : List (String × String)) (tokens : List Token) :
    Except Failure Graph := do
  let (root, reading) ← (readNode .block (readingDepth tokens)).run { tokens, handles }
  checkEnd reading.tokens
  return ⟨reading.vertices, root⟩

def ofTokens (tokens : List Token) : Except Failure (Option Graph) := do
  match tokens.headD .streamEnd with
  | .streamEnd => return none
  | .documentEnd => malformed
  | first =>
    if !endsDocument first then some <$> readContent standardHandles tokens
    else
      let (declared, rest) ← readDirectives false [] tokens
      match rest with
      | .documentStart :: rest =>
        if !endsDocument (rest.headD .streamEnd) then
          some <$> readContent (declared ++ standardHandles) rest
        else
          checkEnd rest
          return some ⟨#[.empty], 0⟩
      | _ => malformed

def read (text : List Char) : Except Failure (Option Graph) := ofTokens (Token.ofText text)

end Graph

end SchemaClasses.Yaml
