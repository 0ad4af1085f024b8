import SchemaClasses.Build.State
import SchemaClasses.Document.Node
import SchemaClasses.Names.PascalCase
import SchemaClasses.Text.CodePoints

/-!
# Naming and placing classes

The name of a class comes from the title of its schema, or from the property or definition that
leads to it. No name is ever made up: a class whose name is taken beside the class that refers to
it is placed inside that class, and if it does not fit there either, the build fails.

## Main definitions

* `className`: the name of the class of a schema.
* `reserve`: takes a name at the top level for a schema.
* `ClassGraph.isFreeIn`: whether a name can be declared in a class.
* `place`: the class in which a new class is declared.
-/

namespace SchemaClasses

/-- The names taken at the top level, each with the path of the schema that has it. -/
abbrev ReservedNames := List (String × String)

def isVisible (text : String) : Bool := text.toList.any (!Text.isBlank ·)

def trimmed (text : String) : String := String.ofList (Text.trimBlanks text.toList)

def title? (node : Node) : Option String := (node.valueOf "title").string?.filter isVisible

/-- The name of the class of a schema: its title, else the fallback, in Pascal case. -/
def className (node? : Option Node) (fallback : String) : Except Failure String :=
  let name := match node?.bind title? with
    | some title => pascalCase (trimmed title)
    | none => pascalCase fallback
  if name.isEmpty then
    .error (.unsupportedSchema ((node?.map (·.path)).getD "")
      ("cannot derive a class name from " ++ Text.quote fallback))
  else .ok name

/-- Takes a name at the top level for the schema at a path, unless another schema has it. -/
def reserve (names : ReservedNames) (name path : String) : Except Failure ReservedNames :=
  match names.lookup name with
  | some owner =>
    if owner = path then .ok (setMember name path names)
    else .error (.unsupportedSchema path
      ("class name " ++ name ++ " is already used by #" ++ owner))
  | none => .ok (setMember name path names)

/-- Whether a name can be declared in a class: neither the class nor one around it has the name, and
nothing declared in the class does. -/
def ClassGraph.isFreeIn (graph : ClassGraph) (scope : ClassId) (name : String) : Bool :=
  let model := graph.get scope
  name != model.name &&
    (graph.enclosing scope).all (fun outer => name != (graph.get outer).name) &&
    model.nested.all (fun inner => name != (graph.get inner).name) &&
    model.enums.all (fun definition => name != definition.name)

/-- The class in which a new class is declared, none being the top level, and the names taken
afterwards. A class is declared beside the class that refers to it if its name is free there, else
inside that class. -/
def place (graph : ClassGraph) (names : ReservedNames) (name path : String)
    (referencing : Option ClassId) : Except Failure (Option ClassId × ReservedNames) :=
  match referencing with
  | none => do return (none, ← reserve names name path)
  | some referrer =>
    let inside :=
      if graph.isFreeIn referrer name then .ok (some referrer, names)
      else .error (.unsupportedSchema path
        ("class name " ++ name ++ " collides in " ++ graph.qualifiedName referrer ++
          " and beside it"))
    match (graph.get referrer).enclosing with
    | none =>
      if (names.lookup name).isNone then .ok (none, setMember name path names) else inside
    | some scope => if graph.isFreeIn scope name then .ok (some scope, names) else inside

def checkFreeIn (graph : ClassGraph) (name path : String) (scope : ClassId) :
    Except Failure Unit :=
  if graph.isFreeIn scope name then .ok ()
  else .error (.unsupportedSchema path
    ("class name " ++ name ++ " collides in " ++ graph.qualifiedName scope))

end SchemaClasses
