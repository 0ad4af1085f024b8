import SchemaClasses.Generation

/-!
# Backends

One backend writes all files of a run. While it writes, it keeps what the file requires, the class
whose file it writes and the class in whose body the text stands, and what it has kept is still
there when it writes the next file or when it fails in the middle of one. It enters the body of a
class, or leaves it for the name of a superclass, and afterwards returns to where it was.

`fileText` gives the text of a file without a backend: there, each text has its place as an
argument, and the requirements begin with each file. Here the backend keeps both.

## Main definitions

* `Backend`: what a backend keeps.
* `Backend.perform`: a step of a language, in the place where the backend stands.
* `Backend.inBody`: a step in the body of a class, after which the backend returns.
* `Backend.generate`, `Backend.call`: the text of a file.
* `Backend.afterCalls`: a backend that has been used.
* `Backend.renderFiles`: the files of a run.
-/

namespace SchemaClasses

/-- A backend and what it keeps while it writes. -/
structure Backend where
  language : TargetLanguage
  settings : Settings
  needs : Requirements := {}
  /-- The top-level class of the file. -/
  file : Option ClassId := none
  /-- The class in whose body the backend writes. -/
  body : Option ClassId := none

namespace Backend

/-- A step of a backend. What it has changed is kept when it fails. -/
abbrev Work := EStateM Failure Backend

variable {α : Type}

def context (backend : Backend) (graph : ClassGraph) : Context where
  graph
  settings := backend.settings
  language := backend.language
  file := backend.file
  body := backend.body

def perform (graph : ClassGraph) (step : Context → Emit α) : Work α := fun backend =>
  match step (backend.context graph) backend.needs with
  | .ok a needs => .ok a { backend with needs }
  | .error failure needs => .error failure { backend with needs }

/-- A step in the body of another class, or outside of all. The backend returns to where it was,
also when the step fails. -/
def inBody (body : Option ClassId) (work : Work α) : Work α := fun backend =>
  match work { backend with body } with
  | .ok a after => .ok a { after with body := backend.body }
  | .error failure after => .error failure { after with body := backend.body }

def superclassName (graph : ClassGraph) (id base : ClassId) : Work String :=
  inBody (graph.get id).enclosing (perform graph (·.classTypeName base))

def kotlinSupertype (graph : ClassGraph) (id : ClassId) (inherited : List Property) :
    Option ClassId → Work String
  | none => return ""
  | some base => do
    let arguments ← perform graph fun _ => inherited.mapM Kotlin.field
    let name ← superclassName graph id base
    return " : " ++ name ++ "(" ++ ", ".intercalate arguments ++ ")"

def kotlinDeclaration (graph : ClassGraph) (id : ClassId) (nested : Work (List Section)) :
    Work Declaration := do
  let model := graph.get id
  let base? ← perform graph fun c => return c.superclass? id
  let fields ← perform graph fun c => return c.splitFields id
  let passed ← perform graph fun c => fields.1.mapM (Kotlin.parameter c false)
  let declared ← perform graph fun c => fields.2.mapM (Kotlin.parameter c true)
  let supertype ← kotlinSupertype graph id fields.1 base?
  let enums ← perform graph fun _ => model.enums.mapM Kotlin.enumSection
  let init ← perform graph fun c => Kotlin.initSections c fields.2
  let equality ← perform graph fun _ => do
    if Kotlin.writesEquality model.kind then
      return [← Kotlin.equalsSection model.name base?.isSome fields.2,
        ← Kotlin.hashSection base?.isSome fields.2]
    else return []
  let inner ← nested
  return {
    head := Kotlin.head (Kotlin.classWords model.kind ++ " " ++ model.name) supertype
      (passed ++ declared)
    sections := enums ++ init ++ equality ++ inner }

def javaExtension (graph : ClassGraph) (id : ClassId) : Option ClassId → Work String
  | none => return ""
  | some base => do
    let name ← superclassName graph id base
    return " extends " ++ name

def javaDeclaration (graph : ClassGraph) (id : ClassId) (nested : Work (List Section)) :
    Work Declaration := do
  let model := graph.get id
  let base? ← perform graph fun c => return c.superclass? id
  let split ← perform graph fun c => return c.splitFields id
  let words := if model.enclosing.isSome then "public static class " else "public class "
  let extension ← javaExtension graph id base?
  let fields ← perform graph fun c => split.2.mapM (Java.fieldLine c)
  let constructor ← perform graph fun c =>
    Java.constructorSections c model.name base?.isSome split.1 split.2
  let getters ← perform graph fun c => split.2.mapM (Java.getterSection c)
  let equality ← perform graph fun c => do
    if Java.writesEquality model.kind then
      return [← Java.equalsSection c model.name base?.isSome split.2,
        ← Java.hashSection c base?.isSome split.2]
    else return []
  let enums ← perform graph fun _ => model.enums.mapM Java.enumSection
  let inner ← nested
  return {
    head := [words ++ model.name ++ extension ++ " \x7b"]
    sections := (if split.2.isEmpty then [] else [Text.indent fields]) ++ constructor ++ getters ++
      equality ++ enums ++ inner }

def pythonDeclaration (graph : ClassGraph) (id : ClassId) (nested : Work (List Section)) :
    Work Declaration := do
  let model := graph.get id
  let base? ← perform graph fun c => return c.superclass? id
  let split ← perform graph fun c => return c.splitFields id
  let fields ← perform graph fun c => split.2.mapM (Python.fieldLine c id)
  let checks ← perform graph fun c => Python.checkSections c split.1 split.2
  let enums ← perform graph fun _ => model.enums.mapM Python.enumSection
  let inner ← nested
  perform graph fun c => do
    let hash ← if model.kind = .plain then pure [] else Python.hashSections (split.1 ++ split.2)
    let sections := enums ++ inner ++ (if fields.isEmpty then [] else [Text.indent fields]) ++
      checks ++ hash
    let bases ← match base? with
      | some base => do
        let name ← Python.baseName c base
        pure ("(" ++ name ++ ")")
      | none => pure ""
    let classLine := "class " ++ model.name ++ bases ++ ":"
    let sections := if sections.isEmpty then [Text.indent ["pass"]] else sections
    if model.kind = .plain then return { head := [classLine], sections }
    Emit.requireSymbol "dataclasses" "dataclass"
    return { head := ["@dataclass(frozen=True, kw_only=True)", classLine], sections }

/-- The text of one class. `nested` writes the classes declared in it. -/
def renderClass (graph : ClassGraph) (id : ClassId) (nested : Work (List Section)) :
    Work String := do
  match ← perform graph fun c => return c.language with
  | .kotlin => Kotlin.text <$> kotlinDeclaration graph id nested
  | .java => Java.text <$> javaDeclaration graph id nested
  | .python => Python.text <$> pythonDeclaration graph id nested

mutual

def renderScoped (graph : ClassGraph) : ClassTree → Work String
  | .node id nested => inBody (some id) (renderClass graph id (renderNested graph nested))

/-- The sections of nested classes, those that stand apart being left out. -/
def renderNested (graph : ClassGraph) : List ClassTree → Work (List Section)
  | [] => return []
  | tree :: rest => do
    if ← perform graph fun c => return c.standsApart tree.id then renderNested graph rest
    else
      let text ← renderScoped graph tree
      let others ← renderNested graph rest
      return Text.indent (Text.lines text) :: others

end

def moduleBlocks (graph : ClassGraph) (id : ClassId) : Work (List String) := do
  let first ← renderScoped graph (graph.tree id)
  let hoisted ← perform graph fun c => Emit.ofExcept (Python.hoistingOrder c id)
  let others ← hoisted.mapM fun inner => do
    let text ← renderScoped graph (graph.tree inner)
    return [text, graph.qualifiedName inner ++ " = " ++ (graph.get inner).name ++ "\n"]
  perform graph fun _ => do
    let needs ← get
    Emit.ofExcept
      (Python.checkModuleNames graph (Python.moduleNames needs (graph.get id).name) hoisted)
    return (if needs.freezes then [Python.freezingHelper] else []) ++ first :: others.flatten

def renderBody (graph : ClassGraph) (id : ClassId) : Work String := do
  match ← perform graph fun c => return c.language with
  | .python => return "\n\n".intercalate (← moduleBlocks graph id)
  | _ => renderScoped graph (graph.tree id)

/-- The text of the file of a top-level class. What the backend has kept from before is dropped. -/
def generate (graph : ClassGraph) (id : ClassId) : Work String := do
  modify fun backend => { backend with needs := {}, file := some id, body := none }
  let body ← renderBody graph id
  perform graph fun c => do
    let imports ← importLines c.language
    return fileHead c (graph.get id) imports ++ body

/-- One call of a backend: the text of a file, or why there is none, and the backend after it. -/
def call (backend : Backend) (graph : ClassGraph) (id : ClassId) :
    Except Failure String × Backend :=
  match (generate graph id).run backend with
  | .ok text after => (.ok text, after)
  | .error failure after => (.error failure, after)

def afterCalls (backend : Backend) (calls : List (ClassGraph × ClassId)) : Backend :=
  calls.foldl (fun backend (graph, id) => (backend.call graph id).2) backend

def outcome (result : EStateM.Result Failure Backend α) : Except Failure α :=
  match result with
  | .ok a _ => .ok a
  | .error failure _ => .error failure

/-- Adds the files of classes to those rendered so far, all of them written by one backend. -/
def renderFiles (graph : ClassGraph) (rendered : List (Target × String)) :
    List ClassId → Work (List (Target × String))
  | [] => return rendered
  | id :: rest => do
    let name := (graph.get id).name
    if ← perform graph fun c => Emit.ofExcept (c.settings.ignores name) then
      renderFiles graph rendered rest
    else
      let text ← generate graph id
      let target ← perform graph fun c => Emit.ofExcept do
        (← targetOf c.language c.settings name).distinguishable
      renderFiles graph (setTarget target text rendered) rest

end Backend

end SchemaClasses
