import SchemaClasses.Document.Node
import SchemaClasses.Value.Writable

/-!
# References

References are resolved within one document. A node that is a reference is followed, through
further references, to the first node that is none. While a type is built from the target of a
reference, that target is in progress; entering it again is a cycle that no class breaks.

## Main definitions

* `resolve`: the node that a reference designates.
* `follow`: the end of a chain of references.
* `enter`, `leave`: take the target of a reference into progress, and out of it.
* `definitions`: the members of a container, with the selection among them.
-/

namespace SchemaClasses

def Node.walk? (node : Node) : List String → Except Failure (Option Node)
  | [] => .ok (some node)
  | segment :: rest => do
    match ← node.child? segment with
    | some next => next.walk? rest
    | none => return none

def resolve (root : Node) (reference : String) : Except Failure Node :=
  if Pointer.isLocal reference then do
    match ← root.walk? (Pointer.segments (Pointer.canonical reference)) with
    | some node => return node
    | none => .error (.unresolvedReference reference "")
  else .error (.unresolvedReference reference "external documents are not supported")

/-- The end of a chain of references: the pointer of the last one, empty when there was none, and
the node it designates. -/
structure Resolved where
  pointer : String
  target : Node

/-- The plain pointer of a reference into the document; other references stay as they are. -/
def referencePointer (reference : String) : String :=
  if Pointer.isLocal reference then Pointer.canonical reference else reference

/-- Follows a chain of references, given the pointers met so far and the last of them. Each step
meets another one, so that `fuel` need not exceed the count of references in the document. -/
def followFrom (root : Node) : Nat → String → List String → Node → Except Failure Resolved
  | 0, pointer, _, _ => .error (.cyclicReference pointer "")
  | fuel + 1, pointer, seen, node =>
    match node.value.member? "$ref" with
    | none => .ok ⟨pointer, node⟩
    | some (.string reference) =>
      let next := referencePointer reference
      if next ∈ seen then
        .error (.cyclicReference reference
          ("reference alias loop " ++ " -> ".intercalate (seen ++ [next])))
      else do
        let target ← resolve root reference
        followFrom root fuel next (seen ++ [next]) target
    | some other => do
      let reason := "$ref at " ++ node.pointer ++ " is not a string"
      .error (.unresolvedReference (← other.writable).plain reason)

/-- Follows a node to the first one that is no reference. -/
def follow (root node : Node) : Except Failure Resolved :=
  followFrom root (root.value.size + 2) "" [] node

/-- Takes the target of a reference into progress, given the pointers that are. -/
def enter (root : Node) (inProgress : List String) (reference : String) :
    Except Failure Resolved :=
  let pointer := Pointer.canonical reference
  if pointer ∈ inProgress then
    .error (.cyclicReference reference "cycle through a type that is not an object class")
  else do return ⟨pointer, ← resolve root reference⟩

def leave : List String → Except Failure (List String)
  | [] => .error .nothingEntered
  | _ :: inProgress => .ok inProgress

/-- A member of a definitions container. Members that are not selected are built when referenced,
but not written. -/
structure Definition where
  name : String
  node : Node
  selected : Bool

/-- The members of a container, in order; without a list of names all of them are selected. -/
def definitions (root : Node) (reference : String) (include? : Option (List String)) :
    Except Failure (List Definition) := do
  let container ← resolve root reference
  if !container.isObject then
    .error (.unresolvedReference reference "definitions container is not an object")
  else
    return container.members.map fun (name, node) =>
      ⟨name, node, include?.all (·.contains name)⟩

end SchemaClasses
