import SchemaClasses.Build.Constraints
import SchemaClasses.Build.Naming
import SchemaClasses.Document.Reference

/-!
# Building types

The type of a property or an item, and the schema that its validation keywords are read from: the
target of a reference, the alternative beside null, or the schema itself. Building a type may build
the classes in it; how classes and the types inside a type are built is a parameter here.

## Main definitions

* `Source`: what is built from.
* `Builders`: how classes and types are built.
* `buildType`: the type of a schema.
* `buildProperties`: the properties of a class.
-/

namespace SchemaClasses

/-- What classes are built from: a document, and the package they are put in. -/
structure Source where
  root : Node
  package : Value := .string ""

/-- How the class of a schema is built, with a fallback for its name and the class that refers to
it, and how a type is built, with a name for what it declares and the class that has the
property. -/
structure Builders where
  classFor : Node → String → Option ClassId → Build ClassId
  typeFor : Node → String → ClassId → Build (TypeRef × Node)

def stringKind : Value → Except Failure PrimitiveKind
  | .string "date" => .ok .date
  | .string "date-time" => .ok .dateTime
  | .string "time" => .ok .time
  | .string "uuid" => .ok .uuid
  | .string "uri" => .ok .uri
  | .array _ | .object _ => .error .wrongType
  | _ => .ok .string

def primitiveType (name : String) (format : Value) : Except Failure TypeRef :=
  match name with
  | "string" => do return .primitive (← stringKind format) format
  | "integer" => .ok (.primitive (if format.isString "int64" then .long else .integer) format)
  | "number" => .ok (.primitive .number format)
  | _ => .ok (.primitive .boolean format)

def anyType : TypeRef := .primitive .any .null

def enumValues (node : Node) : Except Failure (List String) :=
  match node.valueOf "enum" with
  | .array (value :: values) =>
    match strings? (value :: values) with
    | some texts => .ok texts.eraseDups
    | none => unsupported node.path "enum values must be strings"
  | _ => unsupported node.path "enum values must be strings"

/-- The enum of a schema, declared in the class that has the property. -/
def buildEnum (node : Node) (nameHint : String) (owner : ClassId) : Build TypeRef := do
  let values ← Build.ofExcept (enumValues node)
  let types ← Build.ofExcept (typeNames node)
  if types.any (· != "string") then Build.unsupported node.path "enum of a non-string type"
  else
    let graph ← Build.graph
    match (graph.get owner).enums.find? (·.path = node.path) with
    | some definition => return .enum definition
    | none =>
      let name ← Build.ofExcept (className (some node) nameHint)
      Build.ofExcept (checkFreeIn graph name node.path owner)
      let definition : EnumDef := ⟨name, values, owner, node.path⟩
      Build.updateClass owner fun model => { model with enums := model.enums ++ [definition] }
      return .enum definition

def buildSequence (builders : Builders) (node : Node) (nameHint : String) (owner : ClassId) :
    Build TypeRef := do
  match node.member? "items" with
  | none => return .sequence anyType []
  | some items =>
    if items.isArray then Build.unsupported items.path "tuple items"
    else if !items.isObject then return .sequence anyType []
    else
      let (item, source) ← builders.typeFor items nameHint owner
      return .sequence item (← Build.ofExcept (constraintsFor source item))

/-- The map type of an object schema without properties; without a schema for the values it admits
everything. -/
def buildMap (builders : Builders) (node : Node) (nameHint : String) (owner : ClassId) :
    Build TypeRef := do
  match node.member? "additionalProperties" with
  | none => return anyType
  | some values =>
    if values.isObject then
      let (value, _) ← builders.typeFor values nameHint owner
      return .map value
    else return anyType

/-- The type that a reference stands for: a class, or the type of its target, which is in progress
while it is built. -/
def buildReference (source : Source) (builders : Builders) (node : Node) (owner : ClassId) :
    Build (TypeRef × Node) := do
  let resolved ← Build.ofExcept (follow source.root node)
  let fallback := Pointer.tail resolved.pointer
  if ← Build.ofExcept (isClassSchema resolved.target true) then
    let id ← builders.classFor resolved.target fallback (some owner)
    return (.ofClass id, resolved.target)
  else
    let pointer := Pointer.canonical resolved.pointer
    let state ← get
    if pointer ∈ state.inProgress then
      throw (.cyclicReference resolved.pointer
        "cycle through a type that is not an object class")
    else
      set { state with inProgress := pointer :: state.inProgress }
      let (type, _) ← Build.releasing pointer do
        let _ ← Build.ofExcept (resolve source.root resolved.pointer)
        builders.typeFor resolved.target fallback owner
      return (type, resolved.target)

/-- The type of a schema by the name in `type`, if it is neither a reference, an enum, a type with
null added, nor a class. -/
def buildPlainType (builders : Builders) (node : Node) (types : List String) (nameHint : String)
    (owner : ClassId) : Build TypeRef := do
  match types with
  | [] =>
    if node.has "items" then buildSequence builders node nameHint owner
    else if isComposed node then
      Build.unsupported node.path "composition of non-object schemas"
    else return anyType
  | name :: _ =>
    match name with
    | "array" => buildSequence builders node nameHint owner
    | "object" => buildMap builders node nameHint owner
    | "string" | "integer" | "number" | "boolean" =>
      Build.ofExcept (primitiveType name (node.valueOf "format"))
    | _ => Build.unsupported node.path ("type " ++ Text.quote name)

/-- The type of a schema, and the schema that its validation keywords are read from. -/
def buildType (source : Source) (builders : Builders) (node : Node) (nameHint : String)
    (owner : ClassId) : Build (TypeRef × Node) := do
  if node.has "$ref" then buildReference source builders node owner
  else if !node.isObject then return (anyType, node)
  else
    let types ← Build.ofExcept (typeNames node)
    if node.has "enum" then return (← buildEnum node nameHint owner, node)
    else match (nullableAlternative? node).filter fun _ => !node.has "allOf" with
      | some alternative => builders.typeFor alternative nameHint owner
      | none =>
        if ← Build.ofExcept (isClassSchema node false) then
          return (.ofClass (← builders.classFor node nameHint (some owner)), node)
        else return (← buildPlainType builders node types nameHint owner, node)

/-- Whether a value can be the default of a property of a type: a member of an enum, or a string, a
boolean, an integer or a number where the type is that. -/
def isDefaultFor (type : TypeRef) (value : Value) : Bool :=
  match type, value with
  | .enum definition, .string text => definition.values.contains text
  | .primitive .string _, .string _ => true
  | .primitive .boolean _, .bool _ => true
  | .primitive .integer _, .int _ => true
  | .primitive .long _, .int _ => true
  | .primitive .number _, .int _ => true
  | .primitive .number _, .float _ => true
  | _, _ => false

/-- The default of a property that is not required, if its schema has one other than null. -/
def propertyDefault (node : Node) (type : TypeRef) (isRequired : Bool) :
    Except Failure (Option Value) :=
  let value := node.valueOf "default"
  if isRequired || value.isNull then .ok none
  else if isDefaultFor type value then .ok (some value)
  else do
    unsupported node.path ("default " ++ (← value.writable).display ++ " for this property type")

def buildProperty (builders : Builders) (name : String) (node : Node) (isRequired : Bool)
    (owner : ClassId) : Build Property := do
  if !node.isObject then
    Build.unsupported node.path ("property " ++ name ++ " is not a schema object")
  else
    let (type, source) ← builders.typeFor node name owner
    let orNull := admitsNull node
    let default? ← Build.ofExcept (propertyDefault node type isRequired)
    let constraints ← Build.ofExcept (constraintsFor source type)
    return {
      name, type
      nullable := orNull || (!isRequired && default?.isNone)
      required := isRequired
      default?
      constraints := (if isRequired && !orNull then [⟨.required, .null⟩] else []) ++ constraints
      path := node.path }

/-- The properties of a class, from the members of `properties` in order, those with a name in
`skipped` apart. -/
def buildProperties (builders : Builders) (node : Node) (owner : ClassId)
    (skipped : List String := []) : Build (List Property) := do
  match node.member? "properties" with
  | none => return []
  | some properties =>
    if !properties.isObject then
      Build.unsupported properties.path "properties is not an object"
    else match node.member? "required" with
      | none => build properties []
      | some required =>
        if required.isArray then build properties required.value.items
        else Build.unsupported node.path "required is not an array"
where
  build (properties : Node) (required : List Value) : Build (List Property) :=
    (properties.members.filter fun (name, _) => !skipped.contains name).mapM
      fun (name, schema) =>
        buildProperty builders name schema (required.any (·.isString name)) owner

end SchemaClasses
