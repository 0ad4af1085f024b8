import SchemaClasses.Yaml.Merge
import SchemaClasses.Yaml.SetOrder

/-!
# Reading YAML

The value of a YAML document. Its nodes are built in the order of their depth, so that of several
faults the one nearest to the root counts; a node that stands in several places is built once.
Ordered maps and lists of pairs become arrays of pairs, and a set becomes the text of its members.
The keys of a mapping are scalars, and are taken by their texts.

## Main definitions

* `Built`: what a node stands for, its parts by their places.
* `Build`: a step of building.
* `read`: the value of a text.
-/

namespace SchemaClasses.Yaml

/-- What a node stands for, its parts by their places. -/
inductive Built where
  | scalar (scalar : Scalar)
  | array (items : List Nat)
  | pairs (pairs : List (Nat × Nat))
  | object (entries : List (Scalar × Nat))
  | set (members : List Scalar)

structure Building where
  vertices : Array Vertex
  /-- What the nodes stand for that have been met. -/
  built : Array (Option Built)
  /-- The nodes with parts in the order in which they were met. -/
  collections : Array Nat := #[]

abbrev Build := StateT Building (Except Failure)

/-- Sets an entry: in its place, under the key that stands there, or at the end. -/
def setEntry (key : Scalar) (value : Nat) : List (Scalar × Nat) → List (Scalar × Nat)
  | [] => [(key, value)]
  | (known, old) :: rest =>
    if known.sameKey key then (known, value) :: rest else (known, old) :: setEntry key value rest

/-- The text of a node with the tag of a scalar. A mapping has that of its default value. `fuel`
bounds the count of nodes on the way. -/
def scalarText (vertices : Array Vertex) (place : Nat) : Nat → Except Failure String
  | 0 => malformed
  | fuel + 1 =>
    match (vertices[place]?.getD .empty).content with
    | .scalar text => .ok text
    | .sequence _ => malformed
    | .mapping entries =>
      let isDefault : Nat × Nat → Bool := fun (key, _) =>
        (vertices[key]?.map Vertex.tag) = some .defaultValue
      match entries.find? isDefault with
      | some (_, value) => scalarText vertices value fuel
      | none => malformed

def scalarAt (vertices : Array Vertex) (place : Nat) : Except Failure Scalar := do
  let vertex := vertices[place]?.getD .empty
  let text ← scalarText vertices place (vertices.size + 1)
  match vertex.tag, vertex.content with
  | .timestamp, .mapping _ => .error .wrongType
  | tag, _ => Scalar.read tag text place

/-- What a node with parts stands for before these have been built; none for other nodes. -/
def Tag.emptyCollection? : Tag → Option Built
  | .seq => some (.array [])
  | .omap | .pairs => some (.pairs [])
  | .map => some (.object [])
  | .set => some (.set [])
  | _ => none

namespace Build

def vertexAt (place : Nat) : Build Vertex := return (← get).vertices[place]?.getD .empty

def note (place : Nat) (built : Built) : Build Unit :=
  modify fun building => { building with built := building.built.setIfInBounds place (some built) }

/-- Builds the node at a place, unless it has been met before: a scalar at once, the parts of a
collection later. -/
def meet (place : Nat) : Build Built := do
  match (← get).built[place]?.join with
  | some built => return built
  | none =>
    let built ← match (← vertexAt place).tag.emptyCollection? with
      | some built =>
        modify fun building => { building with collections := building.collections.push place }
        pure built
      | none => Built.scalar <$> scalarAt (← get).vertices place
    note place built
    return built

def entriesOf : List (Nat × Nat) → List (Scalar × Nat) → Build (List (Scalar × Nat))
  | [], entries => return entries
  | (key, value) :: rest, entries => do
    match ← meet key with
    | .scalar scalar =>
      let _ ← meet value
      entriesOf rest (setEntry scalar value entries)
    | _ => throw .malformedYaml

def mergedEntries (place : Nat) : Build (List (Scalar × Nat)) := do
  let building ← get
  let (_, vertices) ← (Graph.merge place).run building.vertices
  set { building with vertices }
  match (← vertexAt place).content with
  | .mapping entries => entriesOf entries []
  | _ => throw .malformedYaml

def pairAt (place : Nat) : Build (Nat × Nat) := do
  match (← vertexAt place).content with
  | .mapping [(key, value)] =>
    let _ ← meet key
    let _ ← meet value
    return (key, value)
  | _ => throw .malformedYaml

def fill (place : Nat) : Build Unit := do
  let vertex ← vertexAt place
  match vertex.tag, vertex.content with
  | .seq, .sequence items =>
    items.forM fun item => discard (meet item)
    note place (.array items)
  | .omap, .sequence items | .pairs, .sequence items => note place (.pairs (← items.mapM pairAt))
  | .map, .mapping _ => note place (.object (← mergedEntries place))
  | .set, .mapping _ => note place (.set ((← mergedEntries place).map (·.1)))
  | _, _ => throw .malformedYaml

/-- Builds the parts of all collections from the given one on, in the order in which they were
met. `fuel` bounds their count. -/
def fillFrom (index : Nat) : Nat → Build Unit
  | 0 => return
  | fuel + 1 => do
    match (← get).collections[index]? with
    | some place =>
      fill place
      fillFrom (index + 1) fuel
    | none => return

end Build

def setText (members : List Scalar) : Except Failure String := do
  if members.isEmpty then return "set()"
  else return "\x7b" ++ ", ".intercalate (← (inTableOrder members).mapM Scalar.display) ++ "\x7d"

/-- The value of the node at a place. `fuel` bounds the depth of the nodes below it, of which none
holds itself. -/
def valueAt (built : Array (Option Built)) : Nat → Nat → Except Failure Value
  | 0, _ => malformed
  | fuel + 1, place =>
    match built[place]?.join with
    | some (.scalar scalar) => scalar.value
    | some (.array items) => .array <$> items.mapM (valueAt built fuel)
    | some (.pairs pairs) =>
      .array <$> pairs.mapM fun (key, value) => do
        return .array [← valueAt built fuel key, ← valueAt built fuel value]
    | some (.object entries) => do
      let members ← entries.mapM fun (key, value) => do
        return (← key.text, ← valueAt built fuel value)
      return .object (distinctMembers members)
    | some (.set members) => .string <$> setText members
    | none => malformed

def Graph.value (graph : Graph) : Except Failure Value := do
  let size := graph.vertices.size
  let start : Building := { vertices := graph.vertices, built := Array.replicate size none }
  let ((), building) ← (do
    let _ ← Build.meet graph.root
    Build.fillFrom 0 (size + 1) : Build Unit).run start
  valueAt building.built (size + 1) graph.root

/-- The value of a text; a text without a document is null. -/
def read (text : String) : Except Failure Value := do
  match ← Graph.read text.toList with
  | none => return .null
  | some graph => graph.value

end SchemaClasses.Yaml
