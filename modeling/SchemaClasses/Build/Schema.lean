import SchemaClasses.Build.State
import SchemaClasses.Document.Node
import SchemaClasses.Value.Writable

/-!
# What a schema describes

Questions about a single schema that are answered without building anything: which type it names,
whether it describes a class, and whether it admits null beside another type.

## Main definitions

* `typeNames`: the name in `type`, null apart.
* `nullableAlternative?`: the alternative beside null in a choice of two.
* `isClassSchema`: whether a schema describes a class.
* `admitsNull`: whether a schema is another type with null added.
-/

namespace SchemaClasses

def compositionKeywords : List String := ["allOf", "oneOf", "anyOf"]

def isComposed (node : Node) : Bool := compositionKeywords.any node.has

def unsupported {α : Type} (path construct : String) : Except Failure α :=
  .error (.unsupportedSchema path construct)

def strings? (values : List Value) : Option (List String) := values.mapM (·.string?)

/-- The name of the type of a schema, null apart: none for a schema without a type, and null only if
it is the only one. More than one name is not supported. -/
def typeNames (node : Node) : Except Failure (List String) :=
  let given := node.valueOf "type"
  if given.isNull then .ok []
  else
    let names := match given with
      | .array names => names
      | name => [name]
    let others := names.filter fun name => !name.isString "null"
    if others.isEmpty && !names.isEmpty then .ok ["null"]
    else match strings? others with
      | some [] => .ok []
      | some [name] => .ok [name]
      | _ => do unsupported node.path ("type " ++ (← given.writable).display)

def isNullSchema (node : Node) : Bool := (node.valueOf "type").isString "null"

/-- The other alternative if one of exactly two is null. -/
def otherThanNull? (node : Node) (keyword : String) : Option Node :=
  match node.member? keyword with
  | none => none
  | some alternatives =>
    let others := alternatives.items.filter (!isNullSchema ·)
    if alternatives.items.length = 2 ∧ others.length = 1 then others.head? else none

/-- The alternative beside null in a choice of two, for a schema without properties. -/
def nullableAlternative? (node : Node) : Option Node :=
  if node.has "properties" then none
  else (otherThanNull? node "oneOf").or (otherThanNull? node "anyOf")

/-- Whether a schema describes a class. A bare object counts as one, without properties, only where
`allowEmpty` says so. -/
def isClassSchema (node : Node) (allowEmpty : Bool) : Except Failure Bool :=
  if !node.isObject || node.has "$ref" || node.has "enum" then .ok false
  else do
    let types ← typeNames node
    if types.any (· != "object") then return false
    else if isComposed node then return (nullableAlternative? node).isNone
    else if node.has "properties" then return true
    else
      let isMap := (node.member? "additionalProperties").any (·.isObject)
      return !types.isEmpty && !isMap && allowEmpty

/-- Whether a property schema, which is no reference, is another type with null added. -/
def admitsNull (node : Node) : Bool :=
  if !node.isObject || node.has "$ref" then false
  else
    (node.valueOf "type").items.any (·.isString "null") ||
      (!node.has "allOf" && (nullableAlternative? node).isSome)

end SchemaClasses
