import SchemaClasses.Failure
import SchemaClasses.Model.Graph

/-!
# The state of a build

What a run has built so far: the class graph, which class belongs to which schema, the names that
are taken at the top level, and the references whose targets are in progress. A build that fails
leaves the state as it was at that moment.

## Main definitions

* `BuildState`: the state.
* `Build`: a step that reads and changes the state and may fail.
-/

namespace SchemaClasses

structure BuildState where
  /-- The classes built or begun. -/
  graph : ClassGraph := {}
  /-- The class of each schema, by its path. -/
  classOf : List (String × ClassId) := []
  /-- The names of the root and of the members of a container, by the paths of their schemas. -/
  pinned : List (String × String) := []
  /-- The classes at the top level, in order of creation. -/
  topLevel : List ClassId := []
  /-- For a class placed at the top level because a property refers to it, the root or container
  member from which it was reached first, by the path of its schema. -/
  owners : List (String × ClassId) := []
  /-- The names taken at the top level, each with the path of the schema that has it. -/
  reserved : List (String × String) := []
  /-- The pointers whose targets are in progress. -/
  inProgress : List String := []

/-- A step of a build. -/
abbrev Build := EStateM Failure BuildState

namespace Build

def ofExcept {α : Type} : Except Failure α → Build α
  | .ok a => pure a
  | .error failure => throw failure

def unsupported {α : Type} (path construct : String) : Build α :=
  throw (.unsupportedSchema path construct)

def graph : Build ClassGraph := return (← get).graph

def updateClass (id : ClassId) (change : ClassModel → ClassModel) : Build Unit :=
  modify fun state => { state with graph := state.graph.update id change }

/-- Runs a step and then takes a pointer out of progress, also when the step fails. -/
def releasing {α : Type} (pointer : String) (step : Build α) : Build α := fun state =>
  match step state with
  | .ok a after => .ok a { after with inProgress := after.inProgress.erase pointer }
  | .error failure after =>
    .error failure { after with inProgress := after.inProgress.erase pointer }

end Build

end SchemaClasses
