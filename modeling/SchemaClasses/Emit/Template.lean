import SchemaClasses.Emit.Language
import SchemaClasses.Text.Split
import SchemaClasses.Value.Display

/-!
# Templates of guards

A guard is written by filling the fields of a template. The templates of a language form a table of
lines, blocks of lines and sections; a template is found by the names on the way to it, joined by
dots.

## Main definitions

* `Template`: a line with fields.
* `TemplateEntry`: an entry of a table.
* `guardTemplates`: the table of each language.
* `filledEntry`, `hasTemplate`: the entry under a key, filled, and whether there is one.
-/

namespace SchemaClasses

inductive Piece where
  | text (text : String)
  | field (name : String)

instance : Coe String Piece := ⟨.text⟩

abbrev Template := List Piece

namespace Template

/-- A piece in written form: fields stand between braces, and braces of the text are doubled. -/
def writtenPiece : Piece → List Char
  | .text text =>
    text.toList.flatMap fun c => if c = '\x7b' || c = '\x7d' then [c, c] else [c]
  | .field name => '\x7b' :: (name.toList ++ ['\x7d'])

def written (template : Template) : List Char := template.flatMap writtenPiece

def fillPiece (values : List (String × String)) : Piece → Except Failure String
  | .text text => .ok text
  | .field name =>
    match values.lookup name with
    | some value => .ok value
    | none => .error (.missingKey name)

def fill (values : List (String × String)) (template : Template) : Except Failure String :=
  return String.join (← template.mapM (fillPiece values))

end Template

inductive TemplateEntry where
  | line (template : Template)
  | block (lines : List Template)
  | table (entries : List (String × TemplateEntry))

namespace TemplateEntry

/-- Whether an entry holds a name: a table as a key, a block as a line, and a line as a part of its
written form. -/
def holds (name : String) : TemplateEntry → Bool
  | .line template => Text.occursIn name.toList template.written
  | .block lines => lines.any (·.written = name.toList)
  | .table entries => entries.any (·.1 = name)

/-- The entry that the names lead to. `absent` is the failure when one of them leads nowhere. -/
def descend (absent : Failure) : TemplateEntry → List String → Except Failure TemplateEntry
  | entry, [] => .ok entry
  | entry, name :: rest =>
    if !entry.holds name then .error absent
    else match entry with
      | .table entries =>
        match entries.lookup name with
        | some inner => inner.descend absent rest
        | none => .error absent
      | _ => .error .wrongType

mutual

def written : TemplateEntry → Value
  | .line template => .string (String.ofList template.written)
  | .block lines => .array (lines.map fun line => .string (String.ofList line.written))
  | .table entries => .object (writtenEntries entries)

def writtenEntries : List (String × TemplateEntry) → List (String × Value)
  | [] => []
  | (name, entry) :: rest => (name, written entry) :: writtenEntries rest

end

/-- An entry with its fields filled; a table stays in written form. -/
def fill (values : List (String × String)) : TemplateEntry → Except Failure Value
  | .line template => return .string (← template.fill values)
  | .block lines => return .array ((← lines.mapM (·.fill values)).map .string)
  | entry => .ok entry.written

end TemplateEntry

def valueField : Piece := .field "value"

def operandField : Piece := .field "operand"

def conditionField : Piece := .field "condition"

def messageField : Piece := .field "message"

def lineTable (lines : List (String × Template)) : TemplateEntry :=
  .table (lines.map fun (name, template) => (name, .line template))

/-- The imports that the guards of a kind need, by the keyword of the kind. -/
def guardImports : TargetLanguage → List (String × List String)
  | .kotlin => []
  | .java => [("pattern", ["java.util.regex.Pattern"]), ("uniqueItems", ["java.util.HashSet"])]
  | .python => [("pattern", ["re"])]

def importsEntry (language : TargetLanguage) : TemplateEntry :=
  .table ((guardImports language).map fun (keyword, imports) =>
    (keyword, .block (imports.map fun name => [.text name])))

/-- How the parts of a guard are put together: its statement, and the tests and loops around it. -/
def layoutTemplates : TargetLanguage → List (String × TemplateEntry)
  | .kotlin => [
    ("guard", .block [["require(", conditionField, ") \x7b ", messageField, " \x7d"]]),
    ("null_block", .line ["if (", valueField, " != null)"]),
    ("loop", .line ["for (item in ", valueField, ")"])]
  | .java => [
    ("guard", .block [["if (", conditionField, ")"],
      ["    throw new IllegalArgumentException(", messageField, ");"]]),
    ("null_check", .line [valueField, " != null && ", conditionField]),
    ("null_block", .line ["if (", valueField, " != null)"]),
    ("loop", .line ["for (", .field "item_type", " item : ", valueField, ")"])]
  | .python => [
    ("guard", .block [["if ", conditionField, ":"],
      ["    raise ValueError(", messageField, ")"]]),
    ("null_check", .line [valueField, " is not None and ", conditionField]),
    ("null_block", .line ["if ", valueField, " is not None:"]),
    ("loop", .line ["for item in ", valueField, ":"])]

def reportTemplates : TargetLanguage → List (String × Template)
  | .kotlin => [("value", [valueField]), ("length", [valueField, ".length"]),
    ("size", [valueField, ".size"])]
  | .java => [("value", [valueField]), ("length", [valueField, ".length()"]),
    ("size", [valueField, ".size()"])]
  | .python => [("value", [valueField]), ("length", ["len(", valueField, ")"]),
    ("size", ["len(", valueField, ")"])]

/-- The conditions of the checks. In Kotlin they say what must hold, in the other languages what
must not. -/
def conditionTemplates : TargetLanguage → List (String × Template)
  | .kotlin => [
    ("required", [valueField, " != null"]),
    ("minimum", [valueField, " >= ", operandField]),
    ("exclusiveMinimum", [valueField, " > ", operandField]),
    ("maximum", [valueField, " <= ", operandField]),
    ("exclusiveMaximum", [valueField, " < ", operandField]),
    ("minLength", [valueField, ".length >= ", operandField]),
    ("minLength_1", [valueField, ".isNotEmpty()"]),
    ("maxLength", [valueField, ".length <= ", operandField]),
    ("pattern", ["Regex(", operandField, ").containsMatchIn(", valueField, ")"]),
    ("minItems", [valueField, ".size >= ", operandField]),
    ("minItems_1", [valueField, ".isNotEmpty()"]),
    ("maxItems", [valueField, ".size <= ", operandField]),
    ("uniqueItems", [valueField, ".toSet().size == ", valueField, ".size"])]
  | .java => [
    ("required", [valueField, " == null"]),
    ("minimum", [valueField, " < ", operandField]),
    ("exclusiveMinimum", [valueField, " <= ", operandField]),
    ("maximum", [valueField, " > ", operandField]),
    ("exclusiveMaximum", [valueField, " >= ", operandField]),
    ("minLength", [valueField, ".length() < ", operandField]),
    ("maxLength", [valueField, ".length() > ", operandField]),
    ("pattern", ["!Pattern.compile(", operandField, ").matcher(", valueField, ").find()"]),
    ("minItems", [valueField, ".size() < ", operandField]),
    ("maxItems", [valueField, ".size() > ", operandField]),
    ("uniqueItems", ["new HashSet<>(", valueField, ").size() != ", valueField, ".size()"])]
  | .python => [
    ("required", [valueField, " is None"]),
    ("minimum", [valueField, " < ", operandField]),
    ("exclusiveMinimum", [valueField, " <= ", operandField]),
    ("maximum", [valueField, " > ", operandField]),
    ("exclusiveMaximum", [valueField, " >= ", operandField]),
    ("minLength", ["len(", valueField, ") < ", operandField]),
    ("maxLength", ["len(", valueField, ") > ", operandField]),
    ("pattern", ["re.search(", operandField, ", ", valueField, ") is None"]),
    ("minItems", ["len(", valueField, ") < ", operandField]),
    ("maxItems", ["len(", valueField, ") > ", operandField]),
    ("uniqueItems", ["len(set(", valueField, ")) != len(", valueField, ")"]),
    ("uniqueItems_frozen", ["len(\x7b_frozen(item) for item in ", valueField, "\x7d) != len(",
      valueField, ")"])]

def guardTemplates (language : TargetLanguage) : List (String × TemplateEntry) :=
  [("_template", .table (layoutTemplates language)),
    ("_actual", lineTable (reportTemplates language)),
    ("_imports", importsEntry language)] ++
  (conditionTemplates language).map fun (name, template) => (name, .line template)

def filledEntry (language : TargetLanguage) (key : String) (values : List (String × String)) :
    Except Failure Value := do
  let absent := Failure.missingKey
    ("No guard template " ++ Text.quote key ++ " for " ++ language.name)
  let names := (Text.splitAt '.' key.toList).map String.ofList
  let entry ← (TemplateEntry.table (guardTemplates language)).descend absent names
  entry.fill values

def filledLine (language : TargetLanguage) (key : String) (values : List (String × String)) :
    Except Failure String := do
  match ← filledEntry language key values with
  | .string line => .ok line
  | _ => .error .wrongType

def filledBlock (language : TargetLanguage) (key : String) (values : List (String × String)) :
    Except Failure (List String) := do
  match ← filledEntry language key values with
  | .array lines => .ok (lines.filterMap (·.string?))
  | _ => .error .wrongType

/-- Whether there is an entry under a key of at most two names; a first name with dots leads
nowhere. -/
def hasTemplate (language : TargetLanguage) (key : String) : Bool :=
  let names := (Text.splitAt '.' key.toList).map String.ofList
  let name := names.getLastD ""
  match ".".intercalate names.dropLast with
  | "" => (guardTemplates language).any (·.1 = name)
  | outer => ((guardTemplates language).lookup outer).any (·.holds name)

end SchemaClasses
