import SchemaClasses.Yaml.Graph

/-!
# Merging

A mapping may have others merged into it under a merge key. The merged entries come before its own,
and those of the first of several mappings last, so that they count most. A mapping is merged once;
from then on it holds all its entries, wherever else it stands.

## Main definitions

* `Graph.Step`: a step that changes the nodes of a document.
* `Graph.merge`: merges into a mapping what its merge keys refer to.
-/

namespace SchemaClasses.Yaml

namespace Graph

abbrev Step := StateT (Array Vertex) (Except Failure)

def vertexAt (place : Nat) : Step Vertex := return (← get)[place]?.getD .empty

def entriesAt (place : Nat) : Step (List (Nat × Nat)) := do
  match (← vertexAt place).content with
  | .mapping entries => return entries
  | _ => return []

def setEntries (place : Nat) (entries : List (Nat × Nat)) : Step Unit :=
  modify fun vertices =>
    vertices.modify place fun vertex => { vertex with content := .mapping entries }

/-- Takes the first merge key from the mapping at a place, and gives what it refers to. -/
def takeMerge? (place : Nat) : Step (Option Nat) := do
  let vertices ← get
  let isMerge : Nat × Nat → Bool := fun (key, _) =>
    (vertices[key]?.map Vertex.tag) = some .merge
  let entries ← entriesAt place
  match entries.dropWhile fun entry => !isMerge entry with
  | [] => return none
  | (_, source) :: rest =>
    setEntries place (entries.takeWhile (fun entry => !isMerge entry) ++ rest)
    return some source

/-- Takes the key of a default value for a text. -/
def plainKey (place : Nat) : Step Unit :=
  modify fun vertices => vertices.modify place fun vertex =>
    if vertex.tag = .defaultValue then { vertex with tag := .str } else vertex

mutual

/-- Merges into the mapping at a place what its merge keys refer to, after the entries that are to
be merged already. `fuel` bounds the depth of the calls. -/
def mergeAfter (merged : List (Nat × Nat)) (place : Nat) : Nat → Step Unit
  | 0 => return
  | fuel + 1 => do
    match ← takeMerge? place with
    | some source =>
      let found ← sourceEntries source fuel
      mergeAfter (merged ++ found) place fuel
    | none =>
      let entries := merged ++ (← entriesAt place)
      setEntries place entries
      entries.forM fun (key, _) => plainKey key

/-- The entries of what a merge key refers to: a mapping, or several mappings. -/
def sourceEntries (source : Nat) : Nat → Step (List (Nat × Nat))
  | 0 => return []
  | fuel + 1 => do
    match (← vertexAt source).content with
    | .mapping _ =>
      mergeAfter [] source fuel
      entriesAt source
    | .sequence items => return (← itemEntries items fuel).reverse.flatten
    | .scalar _ => throw .malformedYaml

def itemEntries (items : List Nat) : Nat → Step (List (List (Nat × Nat)))
  | 0 => return []
  | fuel + 1 => do
    match items with
    | [] => return []
    | item :: rest =>
      match (← vertexAt item).content with
      | .mapping _ =>
        mergeAfter [] item fuel
        let entries ← entriesAt item
        return entries :: (← itemEntries rest fuel)
      | _ => throw .malformedYaml

end

def partCount (vertex : Vertex) : Nat :=
  match vertex.content with
  | .scalar _ => 0
  | .sequence items => items.length
  | .mapping entries => entries.length

/-- A depth of calls that suffices for merging: every merge key is taken once, and leads through the
items of one sequence at most. -/
def mergeDepth (vertices : Array Vertex) : Nat :=
  let parts := vertices.foldl (fun count vertex => count + partCount vertex) 0
  (parts + 2) * (parts + 4)

def merge (place : Nat) : Step Unit := do mergeAfter [] place (mergeDepth (← get))

end Graph

end SchemaClasses.Yaml
