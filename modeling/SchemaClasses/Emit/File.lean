import SchemaClasses.Emit.Java
import SchemaClasses.Emit.Kotlin
import SchemaClasses.Emit.Python

/-!
# Files

A file holds one top-level class with everything nested in it, after a head with a comment, the
package and the imports.

## Main definitions

* `Context.classText`: the text of a class with everything nested in it.
* `importLines`: the lines of the imports.
* `fileHead`: the head of a file.
* `fileText`: the text of a file.
-/

namespace SchemaClasses

def Context.declarationText (context : Context) (id : ClassId) (nested : Emit (List Section)) :
    Emit String :=
  match context.language with
  | .kotlin => Kotlin.text <$> Kotlin.declaration context id nested
  | .java => Java.text <$> Java.declaration context id nested
  | .python => Python.text <$> Python.declaration context id nested

/-- Whether a nested class is declared outside the class around it. -/
def Context.standsApart (context : Context) (id : ClassId) : Bool :=
  context.language = .python && Python.isHoisted context id

mutual

def Context.classText (context : Context) : ClassTree → Emit String
  | .node id nested => (context.within id).declarationText id (context.nestedSections nested)

def Context.nestedSections (context : Context) : List ClassTree → Emit (List Section)
  | [] => return []
  | tree :: rest => do
    if context.standsApart tree.id then context.nestedSections rest
    else
      let text ← context.classText tree
      let others ← context.nestedSections rest
      return Text.indent (Text.lines text) :: others

end

/-- The classes of a Python module as blocks of text: the top-level class, and then every hoisted
class with the statement that attaches it to the class around it. -/
def moduleBlocks (context : Context) (id : ClassId) : Emit (List String) := do
  let graph := context.graph
  let first ← context.classText (graph.tree id)
  let hoisted ← Emit.ofExcept (Python.hoistingOrder context id)
  let others ← hoisted.mapM fun inner => do
    let text ← context.classText (graph.tree inner)
    return [text, graph.qualifiedName inner ++ " = " ++ (graph.get inner).name ++ "\n"]
  let needs ← get
  Emit.ofExcept
    (Python.checkModuleNames graph (Python.moduleNames needs (graph.get id).name) hoisted)
  return (if needs.freezes then [Python.freezingHelper] else []) ++ first :: others.flatten

def Context.fileBody (context : Context) (id : ClassId) : Emit String := do
  match context.language with
  | .python => return "\n\n".intercalate (← moduleBlocks context id)
  | _ => context.classText (context.graph.tree id)

def sortTexts (texts : List String) : List String := texts.mergeSort (· ≤ ·)

def sortPairs (pairs : List (String × String)) : List (String × String) :=
  pairs.mergeSort fun a b => a.1 < b.1 || (a.1 = b.1 && a.2 ≤ b.2)

def symbolImports (symbols : List (String × String)) : List String :=
  (sortTexts (symbols.map (·.1)).eraseDups).map fun module =>
    let names := (symbols.filter (·.1 = module)).map (·.2)
    "from " ++ module ++ " import " ++ ", ".intercalate (sortTexts names)

/-- The classes imported for annotations: those that no import of a base already names. -/
def importedAnnotations (needs : Requirements) : List (String × String) :=
  sortPairs (needs.annotations.filter fun (name, localName) =>
    localName ≠ name || !needs.bases.contains name)

def annotationImports (annotations : List (String × String)) : Section :=
  if annotations.isEmpty then []
  else "if TYPE_CHECKING:" :: annotations.map fun (name, localName) =>
    indented 1 ("from ." ++ name ++ " import " ++ name ++
      (if localName = name then "" else " as " ++ localName))

def moduleImports (needs : Requirements) : List String :=
  let sections : List Section := [["from __future__ import annotations"],
    (sortTexts needs.imports).map ("import " ++ ·) ++ symbolImports needs.symbols,
    (sortTexts needs.bases).map fun name => "from ." ++ name ++ " import " ++ name,
    annotationImports (importedAnnotations needs)]
  separated (sections.filter (!·.isEmpty))

/-- The lines that import what has been gathered. The block with the imports for annotations needs a
name of its own. -/
def importLines (language : TargetLanguage) : Emit (List String) := do
  if language = .python then
    if !(importedAnnotations (← get)).isEmpty then Emit.requireSymbol "typing" "TYPE_CHECKING"
    return moduleImports (← get)
  else return sortTexts (← get).imports

def generationComment (language : TargetLanguage) (fileName : String) : List String :=
  let notice := "Generated by json_schema_codegen. Do not edit."
  match language with
  | .python => ["#", "# " ++ fileName, "#", "# " ++ notice, "#", ""]
  | _ => ["/*", " * " ++ fileName, " *", " * " ++ notice, " */", ""]

/-- The lines of the package and the imports. A Python module has no package; two blank lines stand
before its classes. -/
def headLines (language : TargetLanguage) (package : Value) (imports : List String) :
    List String :=
  let stop := if language = .java then ";" else ""
  match language with
  | .python => imports ++ ["", ""]
  | _ =>
    (if package.isTruthy then ["package " ++ package.plain ++ stop, ""] else []) ++
      (if imports.isEmpty then [] else imports.map (fun name => "import " ++ name ++ stop) ++ [""])

def fileHead (context : Context) (model : ClassModel) (imports : List String) : String :=
  let language := context.language
  let comment :=
    if context.settings.addGenerationComment.isTruthy then
      generationComment language (model.name ++ "." ++ language.extension)
    else []
  textOfLines (comment ++ headLines language model.package imports)

/-- Writes the file of a top-level class, gathering what it requires from nothing. -/
def Context.writeFile (context : Context) (id : ClassId) : Emit String := do
  set ({} : Requirements)
  let context := { context with file := some id, body := none }
  let body ← context.fileBody id
  let imports ← importLines context.language
  return fileHead context (context.graph.get id) imports ++ body

def fileText (graph : ClassGraph) (settings : Settings) (language : TargetLanguage)
    (id : ClassId) : Except Failure String :=
  match (Context.writeFile { graph, settings, language } id).run {} with
  | .ok text _ => .ok text
  | .error failure _ => .error failure

end SchemaClasses
