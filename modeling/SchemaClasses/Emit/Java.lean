import SchemaClasses.Emit.Check
import SchemaClasses.Emit.Layout

/-!
# Classes in Java

A class is written with final fields, a constructor that makes the checks, getters, and a comparison
by value. A property with a default value is set by a parameter that may be null.

## Main definitions

* `Java.declaration`: the declaration of a class.
* `Java.text`: its text.
-/

namespace SchemaClasses.Java

def field (property : Property) : Emit String := Emit.ofExcept (fieldName .java property)

def parameterType (context : Context) (property : Property) : Emit String :=
  context.typeName (property.nullable || property.default?.isSome) property.type

def fieldLine (context : Context) (property : Property) : Emit String := do
  let type ← context.fieldType property
  let name ← field property
  return "private final " ++ type ++ " " ++ name ++ ";"

def parameter (context : Context) (property : Property) : Emit String := do
  let type ← parameterType context property
  let name ← field property
  return type ++ " " ++ name

def loopType (context : Context) (property : Property) : Emit String :=
  match property.type with
  | .sequence item _ => context.typeName true item
  | _ => return ""

/-- The lines of the constructor that check a property and set its field. -/
def assignment (context : Context) (property : Property) : Emit (List String) := do
  let name ← field property
  let itemType ← loopType context property
  let guards ← context.writtenGuards property
  let checks ← guards.mapM fun guard => guardLines .java guard name itemType none
  let value ← match property.default? with
    | some value => do
      let default ← context.defaultValue value property.type
      pure (name ++ " != null ? " ++ name ++ " : " ++ default)
    | none => pure name
  return checks.flatten ++ ["this." ++ name ++ " = " ++ value ++ ";"]

def constructorSection (context : Context) (name : String) (extendsBase : Bool)
    (inherited own : List Property) : Emit Section := do
  let parameters ← (inherited ++ own).mapM (parameter context)
  let superCall ←
    if extendsBase && !inherited.isEmpty then do
      let arguments ← inherited.mapM field
      pure ["super(" ++ ", ".intercalate arguments ++ ");"]
    else pure []
  let assignments ← own.mapM (assignment context)
  return Text.indent (["public " ++ name ++ "("] ++ (withCommas parameters).map (indented 2) ++
    [") \x7b"] ++ Text.indent (superCall ++ assignments.flatten) ++ ["\x7d"])

def constructorSections (context : Context) (name : String) (extendsBase : Bool)
    (inherited own : List Property) : Emit (List Section) := do
  if inherited.isEmpty && own.isEmpty then return []
  return [← constructorSection context name extendsBase inherited own]

def getterName (field : String) : String :=
  match field.toList with
  | [] => "get"
  | first :: rest => "get" ++ String.ofList (first.toUpper :: rest)

def getterSection (context : Context) (property : Property) : Emit Section := do
  let name ← field property
  let type ← context.fieldType property
  return Text.indent ["public " ++ type ++ " " ++ getterName name ++ "() \x7b",
    indented 1 ("return " ++ name ++ ";"), "\x7d"]

/-- The test that the fields of two objects are equal. A type that is not one of objects is compared
by its own operator. -/
def equalTest (context : Context) (property : Property) : Emit String := do
  let name ← field property
  let type ← context.fieldType property
  if (boxed? type).isSome then return name ++ " == typedOther." ++ name
  if property.nullable then
    return name ++ " == null ? typedOther." ++ name ++ " == null : " ++ name ++
      ".equals(typedOther." ++ name ++ ")"
  return name ++ ".equals(typedOther." ++ name ++ ")"

def unequalTest (context : Context) (property : Property) : Emit String := do
  let name ← field property
  let type ← context.fieldType property
  if (boxed? type).isSome then return name ++ " != typedOther." ++ name
  if property.nullable then return "!(" ++ (← equalTest context property) ++ ")"
  return "!" ++ name ++ ".equals(typedOther." ++ name ++ ")"

/-- The lines that compare the fields of two objects; the last comparison is the answer. -/
def comparisonLines (context : Context) : List Property → Emit (List String)
  | [] => return []
  | [property] => do
    let test ← equalTest context property
    return [indented 1 ("return " ++ test ++ ";")]
  | property :: rest => do
    let test ← unequalTest context property
    let others ← comparisonLines context rest
    return [indented 1 ("if (" ++ test ++ ")"), indented 2 "return false;"] ++ others

/-- The lines that ask the superclass, before those that compare the class's own fields. -/
def superclassLines (extendsBase hasFields : Bool) : List String :=
  match extendsBase, hasFields with
  | true, true => [indented 1 "if (!super.equals(other))", indented 2 "return false;"]
  | true, false => [indented 1 "return super.equals(other);"]
  | false, true => []
  | false, false => [indented 1 "return true;"]

def equalsSection (context : Context) (name : String) (extendsBase : Bool) (own : List Property) :
    Emit Section := do
  let start := ["@Override", "public boolean equals(Object other) \x7b",
    indented 1 "if (this == other)", indented 2 "return true;",
    indented 1 ("if (!(other instanceof " ++ name ++ "))"), indented 2 "return false;"]
  let cast :=
    if own.isEmpty then [] else [indented 1 (name ++ " typedOther = (" ++ name ++ ")other;")]
  let comparisons ← comparisonLines context own
  return Text.indent
    (start ++ superclassLines extendsBase (!own.isEmpty) ++ cast ++ comparisons ++ ["\x7d"])

def primitiveHash? (type name : String) : Option String :=
  match type with
  | "int" => some name
  | "long" => some ("Long.hashCode(" ++ name ++ ")")
  | "double" => some ("Double.hashCode(" ++ name ++ ")")
  | "boolean" => some ("Boolean.hashCode(" ++ name ++ ")")
  | _ => none

def hashTerm (context : Context) (property : Property) : Emit String := do
  let name ← field property
  let type ← context.fieldType property
  match primitiveHash? type name with
  | some term => return term
  | none =>
    return if property.nullable then "(" ++ name ++ " != null ? " ++ name ++ ".hashCode() : 0)"
      else name ++ ".hashCode()"

def hashLines (terms : List String) : List String :=
  match terms with
  | [] => [indented 1 "return 0;"]
  | [term] => [indented 1 ("return " ++ term ++ ";")]
  | first :: rest =>
    [indented 1 ("int hash = " ++ first ++ ";")] ++
      rest.map (fun term => indented 1 ("hash = 31 * hash + " ++ term ++ ";")) ++
      [indented 1 "return hash;"]

def hashSection (context : Context) (extendsBase : Bool) (own : List Property) : Emit Section := do
  let terms ← own.mapM (hashTerm context)
  let inherited := if extendsBase then ["super.hashCode()"] else []
  return Text.indent
    (["@Override", "public int hashCode() \x7b"] ++ hashLines (inherited ++ terms) ++ ["\x7d"])

def enumSection (definition : EnumDef) : Emit Section := do
  let constants ← definition.values.mapM fun value =>
    Emit.ofExcept (enumConstant .java definition.name value)
  return Text.indent (["public enum " ++ definition.name ++ " \x7b"] ++
    (withCommas constants).map (indented 1) ++ ["\x7d"])

def writesEquality (kind : ClassKind) : Bool := kind ≠ .plain

/-- The declaration of a class. `nested` writes the classes declared in it. -/
def declaration (context : Context) (id : ClassId) (nested : Emit (List Section)) :
    Emit Declaration := do
  let model := context.graph.get id
  let base? := context.superclass? id
  let (inherited, own) := context.splitFields id
  let words := if model.enclosing.isSome then "public static class " else "public class "
  let extension ← match base? with
    | some base => do
      let name ← context.superclassName id base
      pure (" extends " ++ name)
    | none => pure ""
  let fields ← own.mapM (fieldLine context)
  let constructor ← constructorSections context model.name base?.isSome inherited own
  let getters ← own.mapM (getterSection context)
  let equality ←
    if writesEquality model.kind then
      pure [← equalsSection context model.name base?.isSome own,
        ← hashSection context base?.isSome own]
    else pure []
  let enums ← model.enums.mapM enumSection
  let inner ← nested
  return {
    head := [words ++ model.name ++ extension ++ " \x7b"]
    sections := (if own.isEmpty then [] else [Text.indent fields]) ++ constructor ++ getters ++
      equality ++ enums ++ inner }

def text (declaration : Declaration) : String :=
  textOfLines (declaration.head ++ spaced declaration.sections ++ ["", "\x7d"])

end SchemaClasses.Java
