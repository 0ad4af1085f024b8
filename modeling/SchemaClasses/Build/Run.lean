import SchemaClasses.Build.Classes

/-!
# Building the classes of a document

A run builds the class of a whole document, or those of the members of a container. The names of the
root and of all members are reserved before anything is built, so that no class on the way takes one
of them.

## Main definitions

* `registerRoot`: reserves the name of the class of a document.
* `buildRoot`: the class of a document.
* `registerDefinitions`: reserves the names of the members that are classes.
* `buildDefinition`: the class of a member.
* `BuildState.owned`: the classes that belong to a root or a member.
-/

namespace SchemaClasses

def pinName (node : Node) (name : String) : Build Unit := do
  let state ← get
  let reserved ← Build.ofExcept (reserve state.reserved name node.path)
  set { state with reserved, pinned := setMember node.path name state.pinned }

def registerRoot (node : Node) (name? : Option String) : Build String := do
  if !(← Build.ofExcept (isClassSchema node true)) then
    Build.unsupported node.path "root schema is not an object schema"
  else
    let name ← Build.ofExcept (className (some node) (name?.getD ""))
    pinName node name
    return name

/-- The class of a whole document, or of a node of it. -/
def buildRoot (source : Source) (node : Node) (name? : Option String) : Build ClassId := do
  let name ← registerRoot node name?
  source.builders.classFor node name none

def registerDefinitions : List Definition → Build (List Definition)
  | [] => return []
  | entry :: rest => do
    if ← Build.ofExcept (isClassSchema entry.node true) then
      let name ← Build.ofExcept (className (some entry.node) entry.name)
      pinName entry.node name
      return entry :: (← registerDefinitions rest)
    else registerDefinitions rest

def buildDefinition (source : Source) (entry : Definition) : Build ClassId :=
  source.builders.classFor entry.node entry.name none

/-- The classes that belong to a root or a member: its own, and then those at the top level that
were reached from it first, in order of creation. -/
def BuildState.owned (state : BuildState) (owner : ClassId) : List ClassId :=
  owner :: state.topLevel.filter fun id => id != owner && state.ownerOf id = owner

end SchemaClasses
