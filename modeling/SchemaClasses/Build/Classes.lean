import SchemaClasses.Build.Types

/-!
# Building classes

The class of a schema is created once, entered under the path of the schema before its properties
are built, and then filled. A reference back to a class that is being filled finds it there, so that
recursive schemas become recursive classes.

A schema with `allOf` becomes an extension of the one class it refers to. A schema with `oneOf` or
`anyOf` becomes an open base, with a class nested in it for each alternative.

## Main definitions

* `buildClass`: the class of a schema.
* `buildExtension`, `buildAlternatives`: the two ways to compose a class.
* `builders`: the builders to a depth of recursion.
* `depthBound`: a depth that no document exceeds.
-/

namespace SchemaClasses

/-- Creates a class and enters it under the path of its schema, in its enclosing class or at the top
level. -/
def createClass (model : ClassModel) : Build ClassId := do
  let state ← get
  let id := state.graph.size
  let graph := state.graph.add model
  let nestIn (outer : ClassModel) : ClassModel := { outer with nested := outer.nested ++ [id] }
  let state := { state with classOf := setMember model.path id state.classOf }
  match model.enclosing with
  | some outer => set { state with graph := graph.update outer nestIn }
  | none => set { state with graph, topLevel := state.topLevel ++ [id] }
  return id

/-- The root or container member that a top-level class belongs to: itself, or the one from which it
was reached first. -/
def BuildState.ownerOf (state : BuildState) (id : ClassId) : ClassId :=
  (state.owners.lookup (state.graph.get id).path).getD id

/-- Notes the owner of a class that has been placed at the top level because a property refers to
it. -/
def noteOwner (path : String) (referencing : Option ClassId) : Build Unit :=
  modify fun state =>
    match state.pinned.lookup path, referencing with
    | none, some referrer =>
      let owner := state.ownerOf (state.graph.topLevel referrer)
      { state with owners := setMember path owner state.owners }
    | _, _ => state

/-- The kind of a class that is compared by value if it has properties. -/
def kindFor (properties : List Property) : ClassKind :=
  if properties.isEmpty then .plain else .data

/-- Fails unless a member of `allOf` that is no reference is an inline object. -/
def checkInlinePart (part : Node) : Except Failure Unit := do
  let refused : Except Failure Unit :=
    unsupported part.path "allOf member is not an inline object"
  if !part.isObject || isComposed part then refused
  else if (← typeNames part).any (· != "object") then refused
  else return ()

/-- Adds the properties of a part to those of an extension, none of which may be declared twice or
in the base. -/
def addProperties (inherited : List String) (own : List Property) :
    List Property → Except Failure (List Property)
  | [] => .ok own
  | property :: rest =>
    if inherited.contains property.name || own.any (·.name = property.name) then
      unsupported property.path ("property " ++ property.name ++ " redeclared in allOf")
    else addProperties inherited (own ++ [property]) rest

def addParts (builders : Builders) (id : ClassId) (inherited : List String)
    (own : List Property) : List Node → Build (List Property)
  | [] => return own
  | part :: rest => do
    let properties ← buildProperties builders part id
    let own ← Build.ofExcept (addProperties inherited own properties)
    addParts builders id inherited own rest

/-- The references and the inline parts of `allOf`, checked: there must be exactly one reference. -/
def splitAllOf (node members : Node) : Except Failure (Node × List Node) := do
  let isReference (member : Node) : Bool := member.has "$ref"
  if members.items.isEmpty then unsupported members.path "allOf must be a non-empty array"
  else if node.has "oneOf" || node.has "anyOf" then
    unsupported node.path "allOf combined with oneOf/anyOf"
  else match members.items.filter isReference with
    | [reference] =>
      let inline := members.items.filter fun member => !isReference member
      inline.forM checkInlinePart
      return (reference, inline)
    | references =>
      unsupported members.path ("allOf with " ++ toString references.length ++ " references")

/-- The class that an extension extends, which must be complete and no part of a choice. -/
def buildBase (source : Source) (builders : Builders) (id : ClassId) (reference : Node) :
    Build ClassId := do
  let resolved ← Build.ofExcept (follow source.root reference)
  if !(← Build.ofExcept (isClassSchema resolved.target true)) then
    Build.unsupported reference.path "allOf reference is not an object schema"
  else
    let base ← builders.classFor resolved.target (Pointer.tail resolved.pointer) (some id)
    let model := (← Build.graph).get base
    if !model.built then
      throw (.cyclicReference resolved.pointer "allOf base is still being built")
    else if model.kind = .openBase || model.kind = .nestedVariant then
      Build.unsupported reference.path "allOf extending a oneOf/anyOf class"
    else return base

/-- Fills a class from a schema with `allOf`: it extends the class referred to by the properties of
the inline parts and of the schema itself. -/
def buildExtension (source : Source) (builders : Builders) (id : ClassId) (node members : Node) :
    Build Unit := do
  let (reference, inline) ← Build.ofExcept (splitAllOf node members)
  let base ← buildBase source builders id reference
  let inherited := (← Build.graph).allProperties base
  let own ← addParts builders id (inherited.map (·.name)) [] (inline ++ [node])
  Build.updateClass id fun model =>
    { model with base := some base, properties := own, kind := kindFor (inherited ++ own) }

/-- The schema of an alternative and the name of its class: the target of a reference, or an inline
schema with a title. -/
def alternativeSchema (source : Source) (keyword : String) (alternative : Node) :
    Except Failure (Node × String) := do
  if alternative.has "$ref" then
    let resolved ← follow source.root alternative
    return (resolved.target, ← className (some resolved.target) (Pointer.tail resolved.pointer))
  else match title? alternative with
    | none =>
      unsupported alternative.path ("inline " ++ keyword ++ " alternative without a title")
    | some title => return (alternative, ← className (some alternative) title)

/-- Whether a schema can be an alternative: it describes a class and composes no other schemas. -/
def isAlternativeSchema (schema : Node) : Except Failure Bool :=
  if isComposed schema then .ok false else isClassSchema schema true

/-- Builds the class of an alternative at a path, nested in its base, without the properties it
shares. -/
def buildVariant (builders : Builders) (base : ClassId) (shared : List String) (path name : String)
    (schema : Node) : Build Unit := do
  let graph ← Build.graph
  Build.ofExcept (checkFreeIn graph name path base)
  let variant ← createClass {
    name, package := (graph.get base).package, enclosing := some base
    kind := .nestedVariant, base := some base, path }
  let properties ← buildProperties builders schema variant shared
  Build.updateClass variant fun model => { model with properties, built := true }

def buildAlternative (source : Source) (builders : Builders) (base : ClassId) (keyword : String)
    (shared : List String) (alternative : Node) : Build Unit := do
  if !alternative.isObject then
    Build.unsupported alternative.path (keyword ++ " alternative is not a schema")
  else
    let (schema, name) ← Build.ofExcept (alternativeSchema source keyword alternative)
    if ← Build.ofExcept (isAlternativeSchema schema) then
      buildVariant builders base shared alternative.path name schema
    else Build.unsupported alternative.path (keyword ++ " alternative is not an object schema")

/-- Fills a class from a schema with `oneOf` or `anyOf`: it becomes an open base, with a nested
class for each alternative. -/
def buildAlternatives (source : Source) (builders : Builders) (id : ClassId) (node : Node) :
    Build Unit := do
  if node.has "oneOf" && node.has "anyOf" then
    Build.unsupported node.path "oneOf combined with anyOf"
  else
    let keyword := if node.has "oneOf" then "oneOf" else "anyOf"
    match node.member? keyword with
    | none => return
    | some alternatives =>
      if alternatives.items.isEmpty then
        Build.unsupported alternatives.path (keyword ++ " must be a non-empty array")
      else
        Build.updateClass id fun model => { model with kind := .openBase }
        let shared ← buildProperties builders node id
        Build.updateClass id fun model => { model with properties := shared }
        alternatives.items.forM
          (buildAlternative source builders id keyword (shared.map (·.name)))

def fillClass (source : Source) (builders : Builders) (id : ClassId) (node : Node) :
    Build Unit := do
  match node.member? "allOf" with
  | some members => buildExtension source builders id node members
  | none =>
    if node.has "oneOf" || node.has "anyOf" then buildAlternatives source builders id node
    else
      let properties ← buildProperties builders node id
      Build.updateClass id fun model => { model with properties, kind := kindFor properties }

/-- The name of a new class and the class it is declared in. Root and container members have the
name that was reserved for them, at the top level. -/
def placeClass (node : Node) (fallback : String) (referencing : Option ClassId) :
    Build (String × Option ClassId) := do
  match (← get).pinned.lookup node.path with
  | some name => return (name, none)
  | none =>
    let name ← Build.ofExcept (className (some node) fallback)
    let state ← get
    let (enclosing, reserved) ←
      Build.ofExcept (place state.graph state.reserved name node.path referencing)
    set { state with reserved }
    return (name, enclosing)

/-- The class of a schema: the one it has, or a new one. -/
def buildClass (source : Source) (builders : Builders) (node : Node) (fallback : String)
    (referencing : Option ClassId) : Build ClassId := do
  match (← get).classOf.lookup node.path with
  | some id => return id
  | none =>
    let (name, enclosing) ← placeClass node fallback referencing
    let id ← createClass { name, package := source.package, enclosing, path := node.path }
    if enclosing.isNone then noteOwner node.path referencing
    fillClass source builders id node
    Build.updateClass id fun model => { model with built := true }
    return id

/-- The builders whose recursion goes no deeper than the given depth. -/
def builders (source : Source) : Nat → Builders
  | 0 =>
    { classFor := fun node _ _ => throw (.cyclicReference node.path "")
      typeFor := fun node _ _ => throw (.cyclicReference node.path "") }
  | depth + 1 =>
    { classFor := fun node fallback referencing =>
        buildClass source (builders source depth) node fallback referencing
      typeFor := fun node fallback owner =>
        buildType source (builders source depth) node fallback owner }

/-- A depth of recursion that suffices for a document: between the classes and the references on a
path of the recursion, each of which occurs once, there are only steps down the document. -/
def depthBound (document : Value) : Nat := 3 * (document.size + 2) * (document.size + 2)

def Source.builders (source : Source) : Builders :=
  SchemaClasses.builders source (depthBound source.root.value)

end SchemaClasses
