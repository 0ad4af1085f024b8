import SchemaClasses.Emit.Language
import SchemaClasses.Model.Graph
import SchemaClasses.Settings

/-!
# What a file requires

While the classes of a file are written, the imports that their text needs are gathered. They stand
at the head of the file, before the text that asked for them.

## Main definitions

* `Context`: where a piece of text stands.
* `Requirements`: what has been gathered.
* `Emit`: a step that writes text, gathers requirements and may fail.
-/

namespace SchemaClasses

/-- Where a piece of text stands. -/
structure Context where
  graph : ClassGraph
  settings : Settings
  language : TargetLanguage
  /-- The top-level class of the file. -/
  file : Option ClassId := none
  /-- The class in whose body the text stands. -/
  body : Option ClassId := none

def Context.within (context : Context) (id : ClassId) : Context := { context with body := some id }

structure Requirements where
  /-- The imports of the language's own names and modules. -/
  imports : List String := []
  /-- The names imported from modules, each after its module. -/
  symbols : List (String × String) := []
  /-- The classes of other files that only annotations name, each with its name in this file. -/
  annotations : List (String × String) := []
  /-- The classes of other files that are bases in this one. -/
  bases : List String := []
  /-- Whether the helper that makes lists and maps comparable is used. -/
  freezes : Bool := false

def insertOnce {α : Type} [DecidableEq α] (element : α) (elements : List α) : List α :=
  if elements.contains element then elements else elements ++ [element]

/-- A step that writes text. -/
abbrev Emit := EStateM Failure Requirements

namespace Emit

def ofExcept {α : Type} : Except Failure α → Emit α
  | .ok a => pure a
  | .error failure => throw failure

def unsupported {α : Type} (language : TargetLanguage) (construct : String) : Emit α :=
  throw (.unsupportedTarget language.name construct)

def requireImport (name : String) : Emit Unit :=
  modify fun needs => { needs with imports := insertOnce name needs.imports }

def requireSymbol (module name : String) : Emit Unit :=
  modify fun needs => { needs with symbols := insertOnce (module, name) needs.symbols }

def requireAnnotation (className localName : String) : Emit Unit :=
  modify fun needs =>
    { needs with annotations := insertOnce (className, localName) needs.annotations }

def requireBase (className : String) : Emit Unit :=
  modify fun needs => { needs with bases := insertOnce className needs.bases }

def requireFreezing : Emit Unit := modify fun needs => { needs with freezes := true }

end Emit

end SchemaClasses
