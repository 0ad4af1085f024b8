import SchemaClasses.Emit.Language
import SchemaClasses.Model.Property
import SchemaClasses.Names.Identifier
import SchemaClasses.Text.Escaped

/-!
# Identifiers of properties and enum constants

## Main definitions

* `fieldName`: the identifier of a property.
* `enumConstant`: the name of the constant of an enum value.
-/

namespace SchemaClasses

def unsupportedIn {α : Type} (language : TargetLanguage) (construct : String) : Except Failure α :=
  .error (.unsupportedTarget language.name construct)

/-- A reserved word as an identifier: between back quotes in Kotlin, with an underscore after it in
the other languages. -/
def escapeKeyword (language : TargetLanguage) (word : String) : String :=
  match language with
  | .kotlin => "\x60" ++ word ++ "\x60"
  | _ => word ++ "_"

def fieldName (language : TargetLanguage) (property : Property) : Except Failure String :=
  if !isIdentifier property.name then
    unsupportedIn language ("property name " ++ Text.quote property.name ++ " is not an identifier")
  else if language.keywords.contains property.name then .ok (escapeKeyword language property.name)
  else .ok property.name

/-- A text in capitals, an underscore standing for everything but ASCII letters, digits and
underscores. -/
def constantCase (text : String) : String :=
  String.ofList (text.toList.map fun c => if continuesIdentifier c then c.toUpper else '_')

/-- The name of the constant of a value of an enum: the value itself, or the value in capitals in
Python. -/
def enumConstant (language : TargetLanguage) (enumName value : String) : Except Failure String :=
  let constant := if language = .python then constantCase value else value
  if isIdentifier constant && !language.keywords.contains constant then .ok constant
  else
    let reason := if language = .python then " has no member name" else " is not an identifier"
    unsupportedIn language ("enum value " ++ Text.quote value ++ " of " ++ enumName ++ reason)

def enumConstantOf (language : TargetLanguage) (enumName : String) :
    Value → Except Failure String
  | .string value => enumConstant language enumName value
  | _ => .error .wrongType

end SchemaClasses
