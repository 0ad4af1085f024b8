import SchemaClasses.Emit.Check
import SchemaClasses.Emit.Layout

/-!
# Classes in Kotlin

A class is written with its properties as constructor parameters and its guards in an initializer.
Bases of alternatives are open, and they and the alternatives compare by value.

## Main definitions

* `Kotlin.declaration`: the declaration of a class.
* `Kotlin.text`: its text.
-/

namespace SchemaClasses.Kotlin

def field (property : Property) : Emit String := Emit.ofExcept (fieldName .kotlin property)

def classWords : ClassKind → String
  | .data => "data class"
  | .openBase => "open class"
  | .plain | .nestedVariant => "class"

/-- A constructor parameter. Its default value is that of the property, or null for one that may be
left out. -/
def parameter (context : Context) (declares : Bool) (property : Property) : Emit String := do
  let name ← field property
  let type ← context.fieldType property
  let text := (if declares then "val " else "") ++ name ++ ": " ++ type
  match property.default? with
  | some value => return text ++ " = " ++ (← context.defaultValue value property.type)
  | none => return if property.nullable && !property.required then text ++ " = null" else text

def superclassCall (context : Context) (id : ClassId) (inherited : List Property) :
    Option ClassId → Emit String
  | none => return ""
  | some base => do
    let arguments ← inherited.mapM field
    let name ← context.superclassName id base
    return " : " ++ name ++ "(" ++ ", ".intercalate arguments ++ ")"

def head (start supertype : String) (parameters : List String) : List String :=
  if parameters.isEmpty then [start ++ supertype]
  else [start ++ "("] ++ (withCommas parameters).map (indented 1) ++ [")" ++ supertype]

def enumSection (definition : EnumDef) : Emit Section := do
  let constants ← definition.values.mapM fun value =>
    Emit.ofExcept (enumConstant .kotlin definition.name value)
  return Text.indent (["enum class " ++ definition.name ++ " \x7b"] ++
    (withCommas constants).map (indented 1) ++ ["\x7d"])

def guardsOfProperty (context : Context) (property : Property) : Emit (List String) := do
  let guards ← context.writtenGuards property
  let lines ← guards.mapM fun guard => do
    let name ← field property
    guardLines .kotlin guard name "" none
  return lines.flatten

def initSections (context : Context) (own : List Property) : Emit (List Section) := do
  let lines := (← own.mapM (guardsOfProperty context)).flatten
  if lines.isEmpty then return []
  return [Text.indent (["init \x7b"] ++ Text.indent lines ++ ["\x7d"])]

def equalsSection (name : String) (extendsBase : Bool) (own : List Property) : Emit Section := do
  let start := "override fun equals(other: Any?): Boolean = this === other || other is " ++ name ++
    (if extendsBase then " && super.equals(other)" else "")
  let comparisons ← own.mapM fun property => do
    let name ← field property
    return indented 2 (name ++ " == other." ++ name)
  return Text.indent (markedLines " &&" (start :: comparisons))

def hashLines (terms : List String) : List String :=
  let start := "override fun hashCode(): Int"
  match terms with
  | [] => [start ++ " = 0"]
  | [term] => [start ++ " = " ++ term]
  | [first, second] => [start ++ " = 31 * " ++ first ++ " + " ++ second]
  | first :: rest =>
    [start ++ " \x7b", indented 1 ("var hash = " ++ first)] ++
      rest.map (fun term => indented 1 ("hash = 31 * hash + " ++ term)) ++
      [indented 1 "return hash", "\x7d"]

def hashSection (extendsBase : Bool) (own : List Property) : Emit Section := do
  let terms ← own.mapM fun property => return (← field property) ++ ".hashCode()"
  return Text.indent (hashLines ((if extendsBase then ["super.hashCode()"] else []) ++ terms))

def writesEquality : ClassKind → Bool
  | .openBase | .nestedVariant => true
  | .plain | .data => false

/-- The declaration of a class. `nested` writes the classes declared in it. -/
def declaration (context : Context) (id : ClassId) (nested : Emit (List Section)) :
    Emit Declaration := do
  let model := context.graph.get id
  let base? := context.superclass? id
  let (inherited, own) := context.splitFields id
  let passed ← inherited.mapM (parameter context false)
  let declared ← own.mapM (parameter context true)
  let supertype ← superclassCall context id inherited base?
  let enums ← model.enums.mapM enumSection
  let init ← initSections context own
  let equality ←
    if writesEquality model.kind then
      pure [← equalsSection model.name base?.isSome own, ← hashSection base?.isSome own]
    else pure []
  let inner ← nested
  return {
    head := head (classWords model.kind ++ " " ++ model.name) supertype (passed ++ declared)
    sections := enums ++ init ++ equality ++ inner }

/-- The text of a declaration: a class without sections has no body. -/
def text (declaration : Declaration) : String :=
  if declaration.sections.isEmpty then textOfLines declaration.head
  else textOfLines (declaration.head.dropLast ++
    [declaration.head.getLastD "" ++ " \x7b"] ++ spaced declaration.sections ++ ["", "\x7d"])

end SchemaClasses.Kotlin
