import SchemaClasses.Emit.Identifier
import SchemaClasses.Emit.Literal
import SchemaClasses.Emit.Scope
import SchemaClasses.Value.Writable

/-!
# Types and default values as they are written

## Main definitions

* `Context.typeName`: a type in a context.
* `Context.defaultValue`: the default value of a property of a type.
-/

namespace SchemaClasses

def sequenceType (language : TargetLanguage) (item : String) : String :=
  match language with
  | .python => "list[" ++ item ++ "]"
  | _ => "List<" ++ item ++ ">"

def mapType (language : TargetLanguage) (value : String) : String :=
  match language with
  | .python => "dict[str, " ++ value ++ "]"
  | _ => "Map<String, " ++ value ++ ">"

/-- The type with null added to the values of a type. A type of Java that can hold null does so
without a mark. -/
def nullableType (language : TargetLanguage) (type : String) : String :=
  match language with
  | .kotlin => type ++ "?"
  | .java => type
  | .python => type ++ " | None"

/-- The import that sequences or maps need, by the simple name of their type. -/
def requireCollection (language : TargetLanguage) (name : String) : Emit Unit :=
  match language with
  | .java => Emit.requireImport ("java.util." ++ name)
  | _ => pure ()

def primitiveText (language : TargetLanguage) (kind : PrimitiveKind) (nullable : Bool) :
    Emit String := do
  match language.primitiveImport? kind with
  | some name => Emit.requireImport name
  | none => pure ()
  if language = .python && kind = .any then Emit.requireSymbol "typing" "Any"
  let name := language.primitiveName kind
  match language with
  | .java => return if nullable then (boxed? name).getD name else name
  | _ => return name

/-- A type in a context. `nullable` says whether its values may be null; the items of a collection
in Java always may. -/
def Context.typeName (context : Context) (nullable : Bool) : TypeRef → Emit String
  | .primitive kind _ => do finish (← primitiveText context.language kind nullable)
  | .ofClass id => do finish (← context.classTypeName id)
  | .sequence item _ => do
    requireCollection context.language "List"
    let inner ← context.typeName (context.language = .java) item
    finish (sequenceType context.language inner)
  | .map value => do
    requireCollection context.language "Map"
    let inner ← context.typeName (context.language = .java) value
    finish (mapType context.language inner)
  | .enum definition => do finish (← context.enumTypeName definition)
  | .undetermined => Emit.unsupported context.language "type None"
  | .absent => throw .missingPart
where
  finish (name : String) : Emit String :=
    pure (if nullable then nullableType context.language name else name)

def floatDefault : Value → Except Failure String
  | .int n =>
    match Binary64.ofInt? n with
    | some x => .ok x.text
    | none => .error .numberTooLarge
  | .float x => .ok x.text
  | _ => .error .wrongType

def boolLiteral (language : TargetLanguage) (value : Bool) : String :=
  match language, value with
  | .python, true => "True"
  | .python, false => "False"
  | _, true => "true"
  | _, false => "false"

def plainDefault (language : TargetLanguage) (primitive? : Option PrimitiveKind) :
    Value → Except Failure String
  | .bool b => .ok (boolLiteral language b)
  | .string text => .ok (stringLiteral language text)
  | value =>
    match language, primitive? with
    | _, some .number => floatDefault value
    | .java, some .long => do return (← value.writable).plain ++ "L"
    | _, _ => do return (← value.writable).plain

def Context.defaultValue (context : Context) (value : Value) : TypeRef → Emit String
  | .enum definition => do
    let owner ← match context.language with
      | .python => pure definition.name
      | _ => context.enumTypeName definition
    let constant ← Emit.ofExcept (enumConstantOf context.language definition.name value)
    return owner ++ "." ++ constant
  | .absent => throw .missingPart
  | type => Emit.ofExcept (plainDefault context.language type.primitive? value)

end SchemaClasses
