import SchemaClasses.Model.Property

/-!
# The class graph

The classes of a run, in the order of their creation. A class may be nested in another one, and may
have a base; properties refer to classes by number, so that recursive types need no cyclic data.

## Main definitions

* `ClassModel`: a class.
* `ClassGraph`: the classes of a run.
* `ClassGraph.enclosing`: the classes around a class, innermost first.
* `ClassGraph.qualifiedName`: the name of a class after those of the classes around it.
* `ClassGraph.allProperties`: the properties of a class, those of its bases first.
* `ClassGraph.tree`: a class with everything nested in it.
-/

namespace SchemaClasses

structure ClassModel where
  name : String := ""
  package : Value := .string ""
  /-- The class that this one is declared in. -/
  enclosing : Option ClassId := none
  kind : ClassKind := .data
  properties : List Property := []
  base : Option ClassId := none
  /-- The classes declared in this one. -/
  nested : List ClassId := []
  /-- The enums declared in this class. -/
  enums : List EnumDef := []
  path : String := ""
  /-- Whether the class is complete. -/
  built : Bool := false

instance : Inhabited ClassModel := ⟨{}⟩

/-- The classes of a run, each at the place of its number. -/
structure ClassGraph where
  classes : List ClassModel := []

inductive ClassTree where
  | node (id : ClassId) (nested : List ClassTree)

namespace ClassTree

def id : ClassTree → ClassId
  | .node id _ => id

def nested : ClassTree → List ClassTree
  | .node _ nested => nested

mutual

/-- The classes of a tree, each before those nested in it. -/
def classes : ClassTree → List ClassId
  | .node id nested => id :: classesOfAll nested

def classesOfAll : List ClassTree → List ClassId
  | [] => []
  | tree :: rest => classes tree ++ classesOfAll rest

end

end ClassTree

namespace ClassGraph

def size (graph : ClassGraph) : Nat := graph.classes.length

def get (graph : ClassGraph) (id : ClassId) : ClassModel := graph.classes[id]?.getD default

def add (graph : ClassGraph) (model : ClassModel) : ClassGraph := ⟨graph.classes ++ [model]⟩

def update (graph : ClassGraph) (id : ClassId) (change : ClassModel → ClassModel) : ClassGraph :=
  ⟨graph.classes.modify id change⟩

/-- The classes met by going on from one to the next, at most `fuel` of them. -/
def chainFrom (graph : ClassGraph) (next : ClassModel → Option ClassId) :
    Nat → Option ClassId → List ClassId
  | 0, _ => []
  | _, none => []
  | fuel + 1, some id => id :: chainFrom graph next fuel (next (graph.get id))

/-- The classes around a class, innermost first. -/
def enclosing (graph : ClassGraph) (id : ClassId) : List ClassId :=
  graph.chainFrom (·.enclosing) graph.size (graph.get id).enclosing

/-- A class and its bases, nearest first. -/
def lineage (graph : ClassGraph) (id : ClassId) : List ClassId :=
  graph.chainFrom (·.base) graph.size (some id)

def topLevel (graph : ClassGraph) (id : ClassId) : ClassId := (graph.enclosing id).getLastD id

/-- The names of the classes around a class, outermost first, and its own. -/
def nameChain (graph : ClassGraph) (id : ClassId) : List String :=
  ((graph.enclosing id).reverse ++ [id]).map fun outer => (graph.get outer).name

def qualifiedName (graph : ClassGraph) (id : ClassId) : String :=
  ".".intercalate (graph.nameChain id)

/-- The properties of a class, those of its bases first. -/
def allProperties (graph : ClassGraph) (id : ClassId) : List Property :=
  (graph.lineage id).reverse.flatMap fun base => (graph.get base).properties

def treeFrom (graph : ClassGraph) : Nat → ClassId → ClassTree
  | 0, id => .node id []
  | fuel + 1, id => .node id ((graph.get id).nested.map (treeFrom graph fuel))

def tree (graph : ClassGraph) (id : ClassId) : ClassTree := graph.treeFrom graph.size id

end ClassGraph

end SchemaClasses
