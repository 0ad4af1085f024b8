import SchemaClasses.Emit.Check
import SchemaClasses.Emit.Layout

/-!
# Classes in Python

A class is written as a frozen dataclass that checks itself after its fields are set. A class
declared in another one cannot name that one as its base, so it is declared at the level of the
module, after the top-level class, and then attached to the class around it.

## Main definitions

* `Python.declaration`: the declaration of a class.
* `Python.text`: its text.
* `Python.isHoisted`: whether a class is declared at the level of the module.
* `Python.hoistingOrder`: the order of those declarations.
* `Python.checkModuleNames`: checks that their names are free in the module.
-/

namespace SchemaClasses.Python

def field (property : Property) : Emit String := Emit.ofExcept (fieldName .python property)

/-- The line of a field. Its default value is that of the property, or None for one that may be left
out. The members of an enum can be named only in the class that declares the enum. -/
def fieldLine (context : Context) (id : ClassId) (property : Property) : Emit String := do
  let name ← field property
  let type ← context.fieldType property
  let line := name ++ ": " ++ type
  match property.default? with
  | none => return if property.nullable && !property.required then line ++ " = None" else line
  | some value =>
    match property.type with
    | .enum definition =>
      if definition.owner ≠ id then
        Emit.unsupported .python ("default of " ++ property.name ++ " in " ++
          context.graph.qualifiedName id ++ " uses an enum declared in another class")
    | _ => pure ()
    return line ++ " = " ++ (← context.defaultValue value property.type)

def guardsOfProperty (context : Context) (property : Property) : Emit (List String) := do
  let guards ← context.writtenGuards property
  let lines ← guards.mapM fun guard => do
    let name ← field property
    let key? ← freezingKey guard property
    guardLines .python guard ("self." ++ name) "" key?
  return lines.flatten

def anyGuarded (context : Context) : List Property → Emit Bool
  | [] => return false
  | property :: rest => do
    let guards ← context.writtenGuards property
    if guards.isEmpty then anyGuarded context rest else return true

/-- The method with the guards, if there are any. It begins with that of the base if the base has
one. -/
def checkSections (context : Context) (inherited own : List Property) : Emit (List Section) := do
  let lines := (← own.mapM (guardsOfProperty context)).flatten
  if lines.isEmpty then return []
  let first := if ← anyGuarded context inherited then ["super().__post_init__()"] else []
  return [Text.indent (["def __post_init__(self):"] ++ Text.indent (first ++ lines))]

/-- An enum. Its members must have distinct names. -/
def enumSection (definition : EnumDef) : Emit Section := do
  Emit.requireSymbol "enum" "Enum"
  let members ← definition.values.mapM fun value => do
    let name ← Emit.ofExcept (enumConstant .python definition.name value)
    return (name, value)
  if (members.map (·.1)).eraseDups.length ≠ members.length then
    Emit.unsupported .python
      ("enum values of " ++ definition.name ++ " map to the same member name")
  return Text.indent (("class " ++ definition.name ++ "(str, Enum):") ::
    members.map fun (name, value) => indented 1 (name ++ " = " ++ stringLiteral .python value))

def freezingName : String := "_frozen"

def anyFreezing : List Property → Except Failure Bool
  | [] => .ok false
  | property :: rest => do
    if ← needsFreezing property.type then return true
    anyFreezing rest

def hashTerm (property : Property) : Emit String := do
  let value := "self." ++ (← field property)
  if ← Emit.ofExcept (needsFreezing property.type) then
    return freezingName ++ "(" ++ value ++ ")"
  return value

def hashSections (properties : List Property) : Emit (List Section) := do
  if !(← Emit.ofExcept (anyFreezing properties)) then return []
  Emit.requireFreezing
  let terms ← properties.mapM hashTerm
  let values := ", ".intercalate terms ++ (if terms.length = 1 then "," else "")
  return [Text.indent ["def __hash__(self):", indented 1 ("return hash((" ++ values ++ "))")]]

/-- The name of a base in the declaration of a class; a base of another file is imported. -/
def baseName (context : Context) (base : ClassId) : Emit String := do
  let top := context.graph.topLevel base
  if context.file ≠ some top then Emit.requireBase (context.graph.get top).name
  return context.graph.qualifiedName base

/-- The declaration of a class. `nested` writes the classes declared in it. -/
def declaration (context : Context) (id : ClassId) (nested : Emit (List Section)) :
    Emit Declaration := do
  let model := context.graph.get id
  let base? := context.superclass? id
  let (inherited, own) := context.splitFields id
  let fields ← own.mapM (fieldLine context id)
  let checks ← checkSections context inherited own
  let enums ← model.enums.mapM enumSection
  let inner ← nested
  let hash ← if model.kind = .plain then pure [] else hashSections (inherited ++ own)
  let sections := enums ++ inner ++ (if fields.isEmpty then [] else [Text.indent fields]) ++
    checks ++ hash
  let bases ← match base? with
    | some base => do
      let name ← baseName context base
      pure ("(" ++ name ++ ")")
    | none => pure ""
  let classLine := "class " ++ model.name ++ bases ++ ":"
  let sections := if sections.isEmpty then [Text.indent ["pass"]] else sections
  if model.kind = .plain then return { head := [classLine], sections }
  Emit.requireSymbol "dataclasses" "dataclass"
  return { head := ["@dataclass(frozen=True, kw_only=True)", classLine], sections }

def text (declaration : Declaration) : String :=
  textOfLines (declaration.head ++ separated declaration.sections)

/-- Whether a class is declared at the level of the module: it is declared in another class and has
a superclass. -/
def isHoisted (context : Context) (id : ClassId) : Bool :=
  (context.graph.get id).enclosing.isSome && (context.superclass? id).isSome

/-- The classes whose declarations come before that of a hoisted class of a file: those around it,
and its superclass with those around that if it stands in the same file. -/
def requiredBefore (context : Context) (top id : ClassId) : List ClassId :=
  let graph := context.graph
  let around := (graph.enclosing id).reverse
  match context.superclass? id with
  | some base =>
    if graph.topLevel base = top then around ++ (graph.enclosing base).reverse ++ [base] else around
  | none => around

/-- The order of declaration so far, and the classes on the way to the one to be placed. -/
structure Hoisting where
  ordered : List ClassId
  visiting : List ClassId

/-- Places a class in the order, after those that it requires, if it is hoisted and has no place
yet. A class that is met again on the way to itself has none. -/
def hoist (context : Context) (top : ClassId) :
    Nat → ClassId → Hoisting → Except Failure Hoisting
  | fuel, id, hoisting =>
    if !isHoisted context id || hoisting.ordered.contains id then .ok hoisting
    else
      let cyclic := unsupportedIn .python
        (context.graph.qualifiedName id ++ " cannot be declared after its base class")
      match fuel with
      | 0 => cyclic
      | fuel + 1 =>
        if hoisting.visiting.contains id then cyclic
        else do
          let entered := { hoisting with visiting := hoisting.visiting ++ [id] }
          let after ← (requiredBefore context top id).foldlM
            (fun hoisting required => hoist context top fuel required hoisting) entered
          return { after with ordered := after.ordered ++ [id] }

/-- The hoisted classes among those nested in a top-level class, in an order in which each comes
after those that it requires. -/
def hoistingOrder (context : Context) (top : ClassId) : Except Failure (List ClassId) :=
  (context.graph.tree top).classes.tail.foldlM (fun ordered id => do
    return (← hoist context top (context.graph.size + 1) id ⟨ordered, []⟩).ordered) []

def moduleNames (needs : Requirements) (className : String) : List String :=
  [className, freezingName] ++ needs.imports ++ needs.symbols.map (·.2) ++
    needs.annotations.map (·.2) ++ needs.bases ++
    (if needs.annotations.isEmpty then [] else ["TYPE_CHECKING"])

def checkModuleNames (graph : ClassGraph) (taken : List String) :
    List ClassId → Except Failure Unit
  | [] => .ok ()
  | id :: rest =>
    let name := (graph.get id).name
    if taken.contains name then
      unsupportedIn .python
        (graph.qualifiedName id ++ " clashes with the module-level name " ++ name)
    else checkModuleNames graph (name :: taken) rest

def freezingHelper : String :=
  textOfLines [
    "def _frozen(value):",
    "    if isinstance(value, list):",
    "        return tuple(_frozen(item) for item in value)",
    "    if isinstance(value, dict):",
    "        return frozenset((key, _frozen(item)) for key, item in value.items())",
    "    return value"]

end SchemaClasses.Python
