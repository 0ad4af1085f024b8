import SchemaClasses.Model.Kind
import SchemaClasses.Value.Label

/-!
# Target languages

The languages that classes are written in, with what each of them calls its files and its types,
and the words that it reserves.

## Main definitions

* `TargetLanguage`: Kotlin, Java or Python.
* `TargetLanguage.ofName?`, `TargetLanguage.ofValue`: the language of a name.
* `TargetLanguage.keywords`: the words that are no identifiers of a language.
* `TargetLanguage.primitiveName`: the type that stands for a primitive kind.
-/

namespace SchemaClasses

inductive TargetLanguage where
  | kotlin
  | java
  | python
deriving DecidableEq

namespace TargetLanguage

def all : List TargetLanguage := [.kotlin, .java, .python]

def name : TargetLanguage → String
  | .kotlin => "kotlin"
  | .java => "java"
  | .python => "python"

def extension : TargetLanguage → String
  | .kotlin => "kt"
  | .java => "java"
  | .python => "py"

def ofName? (name : String) : Option TargetLanguage := all.find? (·.name = name)

def ofValue (value : Value) : Except Failure TargetLanguage := value.word ofName? "TargetLanguage"

def keywords : TargetLanguage → List String
  | .kotlin =>
    ["as", "break", "class", "continue", "do", "else", "false", "for", "fun", "if", "in",
      "interface", "is", "null", "object", "package", "return", "super", "this", "throw", "true",
      "try", "typealias", "typeof", "val", "var", "when", "while"]
  | .java =>
    ["abstract", "assert", "boolean", "break", "byte", "case", "catch", "char", "class", "const",
      "continue", "default", "do", "double", "else", "enum", "extends", "false", "final",
      "finally", "float", "for", "goto", "if", "implements", "import", "instanceof", "int",
      "interface", "long", "native", "new", "null", "package", "private", "protected", "public",
      "return", "short", "static", "strictfp", "super", "switch", "synchronized", "this", "throw",
      "throws", "transient", "true", "try", "void", "volatile", "while", "var", "record", "yield"]
  | .python =>
    ["False", "None", "True", "and", "as", "assert", "async", "await", "break", "class",
      "continue", "def", "del", "elif", "else", "except", "finally", "for", "from", "global", "if",
      "import", "in", "is", "lambda", "nonlocal", "not", "or", "pass", "raise", "return", "try",
      "while", "with", "yield"]

def primitiveName : TargetLanguage → PrimitiveKind → String
  | .kotlin, .string => "String"
  | .kotlin, .integer => "Int"
  | .kotlin, .long => "Long"
  | .kotlin, .number => "Double"
  | .kotlin, .boolean => "Boolean"
  | .kotlin, .any => "Any"
  | .java, .string => "String"
  | .java, .integer => "int"
  | .java, .long => "long"
  | .java, .number => "double"
  | .java, .boolean => "boolean"
  | .java, .any => "Object"
  | .python, .string => "str"
  | .python, .integer => "int"
  | .python, .long => "int"
  | .python, .number => "float"
  | .python, .boolean => "bool"
  | .python, .date => "datetime.date"
  | .python, .dateTime => "datetime.datetime"
  | .python, .time => "datetime.time"
  | .python, .uuid => "uuid.UUID"
  | .python, .uri => "str"
  | .python, .any => "Any"
  | _, .date => "LocalDate"
  | _, .dateTime => "OffsetDateTime"
  | _, .time => "LocalTime"
  | _, .uuid => "UUID"
  | _, .uri => "URI"

def primitiveImport? : TargetLanguage → PrimitiveKind → Option String
  | .python, .date | .python, .dateTime | .python, .time => some "datetime"
  | .python, .uuid => some "uuid"
  | .python, _ => none
  | _, .date => some "java.time.LocalDate"
  | _, .dateTime => some "java.time.OffsetDateTime"
  | _, .time => some "java.time.LocalTime"
  | _, .uuid => some "java.util.UUID"
  | _, .uri => some "java.net.URI"
  | _, _ => none

end TargetLanguage

/-- The type of Java objects that hold the values of a type without a null, if it is such a
type. -/
def boxed? : String → Option String
  | "int" => some "Integer"
  | "long" => some "Long"
  | "double" => some "Double"
  | "boolean" => some "Boolean"
  | _ => none

end SchemaClasses
