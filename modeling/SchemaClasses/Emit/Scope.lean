import SchemaClasses.Emit.Requirements

/-!
# Names of classes as they are written

In Kotlin and Java a simple name is looked up in the class around it, in the superclasses of that
class, then in the next class outwards, and at last among the top-level classes. A class body in
Python sees only the names declared in it and those of its module. A name that something else would
be found under is written with the package before it, or imported under another name.

## Main definitions

* `Context.superclass?`: the superclass that the declaration of a class names.
* `Context.splitFields`: the properties that a class inherits and those it declares.
* `Context.visibleClasses`: the classes whose members are seen by their simple names.
* `Context.classTypeName`, `Context.enumTypeName`: the name of a class or an enum in a context.
-/

namespace SchemaClasses.Context

/-- Whether a class can extend another one. Only open classes are extended in Kotlin; in Python a
class cannot extend itself or a class declared in it. -/
def canExtend (context : Context) (id base : ClassId) : Bool :=
  match context.language with
  | .kotlin => (context.graph.get base).kind = .openBase
  | .java => true
  | .python => base != id && !(context.graph.enclosing base).contains id

def superclass? (context : Context) (id : ClassId) : Option ClassId :=
  (context.graph.get id).base.filter (context.canExtend id)

/-- The properties that a class inherits from its superclass, and those that it declares; without a
superclass it declares those of its bases too. -/
def splitFields (context : Context) (id : ClassId) : List Property × List Property :=
  match context.superclass? id with
  | none => ([], context.graph.allProperties id)
  | some base => (context.graph.allProperties base, (context.graph.get id).properties)

/-- The classes seen already, followed by a class and its superclasses up to the first one seen. -/
def withSuperclasses (context : Context) : Nat → List ClassId → Option ClassId → List ClassId
  | 0, seen, _ => seen
  | _, seen, none => seen
  | fuel + 1, seen, some id =>
    if seen.contains id then seen
    else withSuperclasses context fuel (seen ++ [id]) (context.superclass? id)

/-- The classes whose members are seen by their simple names, innermost first. -/
def visibleClasses (context : Context) : List ClassId :=
  match context.body, context.language with
  | none, _ => []
  | some id, .python => [id]
  | some id, _ =>
    (id :: context.graph.enclosing id).foldl
      (fun seen outer => context.withSuperclasses context.graph.size seen (some outer)) []

/-- Whether the first member of the given name in a class, if there is one, is something else than
the class with that name. -/
def hidesIn (graph : ClassGraph) (head : ClassId) (scope : ClassId) : Option Bool :=
  let name := (graph.get head).name
  let model := graph.get scope
  match model.nested.find? (fun inner => (graph.get inner).name = name) with
  | some inner => some (inner != head)
  | none => if model.enums.any (·.name = name) then some true else none

/-- Whether the name of a top-level class is found to be something else. -/
def isHidden (context : Context) (head : ClassId) : Bool :=
  (context.visibleClasses.findSome? (hidesIn context.graph head)).getD false

/-- A name that begins with a top-level class and goes on with `inner`, as it is written in a
context. -/
def qualify (context : Context) (head : ClassId) (inner : List String) : Emit String := do
  let model := context.graph.get head
  let name := ".".intercalate (model.name :: inner)
  match context.language with
  | .python =>
    if context.file = some head then return name
    let localName := if context.isHidden head then "_" ++ model.name else model.name
    Emit.requireAnnotation model.name localName
    return ".".intercalate (localName :: inner)
  | language =>
    if !context.isHidden head then return name
    if model.package.isTruthy then return model.package.plain ++ "." ++ name
    let scope := (context.body.map context.graph.qualifiedName).getD ""
    Emit.unsupported language
      (name ++ " is hidden by a class nested in " ++ scope ++ " and has no package")

def classTypeName (context : Context) (id : ClassId) : Emit String :=
  context.qualify (context.graph.topLevel id) (context.graph.nameChain id).tail

def enumTypeName (context : Context) (definition : EnumDef) : Emit String :=
  context.qualify (context.graph.topLevel definition.owner)
    ((context.graph.nameChain definition.owner).tail ++ [definition.name])

def superclassName (context : Context) (id base : ClassId) : Emit String :=
  { context with body := (context.graph.get id).enclosing }.classTypeName base

end SchemaClasses.Context
