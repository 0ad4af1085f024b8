import SchemaClasses.Document.Reference

/-!
# Resolvers

A resolver answers for the references of one document. Whoever takes the target of a reference into
progress does so for a block, at the end of which it is taken out again. The resolver marks the
pointers of the open blocks, so that none is entered within itself.

## Main definitions

* `Resolver`: a document, the pointers that are marked, and the open blocks.
* `Resolver.enter`, `Resolver.leave`: open a block, and end the one opened last.
* `Resolver.follow`: the end of a chain of references, and whether it is in progress.
* `Resolver.Call`, `Resolver.perform`: the calls of a resolver, step by step.
* `Resolver.afterCalls`: a resolver that has been used.
-/

namespace SchemaClasses

/-- A document, the pointers that are marked as in progress, and those of the open blocks, the one
opened last first. -/
structure Resolver where
  root : Node
  inProgress : List String := []
  blocks : List String := []

namespace Resolver

/-- A step of a resolver. What it has changed is kept when it fails. -/
abbrev Work := EStateM Failure Resolver

def mark (resolver : Resolver) (pointer : String) : Resolver :=
  { resolver with inProgress := resolver.inProgress.insert pointer }

def unmark (resolver : Resolver) (pointer : String) : Resolver :=
  { resolver with inProgress := resolver.inProgress.filter (· ≠ pointer) }

inductive Call where
  | resolve (reference : String)
  | follow (node : Node)
  | definitions (reference : String) (include? : Option (List String))
  | enter (reference : String)
  | leave

inductive Answer where
  | node (node : Node)
  | followed (resolved : Resolved) (inProgress : Bool)
  | definitions (entries : List Definition)
  | entered (resolved : Resolved)
  | left

def ofRoot {α : Type} (result : Node → Except Failure α) : Work α := do
  MonadExcept.ofExcept (result (← get).root)

/-- A step that takes away the mark of a pointer when it fails. -/
def unmarkingFailed {α : Type} (pointer : String) (step : Work α) : Work α :=
  try step
  catch failure => do
    modify (·.unmark pointer)
    throw failure

def follow (node : Node) : Work (Resolved × Bool) := do
  let resolved ← ofRoot (SchemaClasses.follow · node)
  return (resolved, (← get).inProgress.contains resolved.pointer)

/-- Opens a block in which the target of a reference is in progress. The pointer is marked before
the reference is resolved; if that fails, no block is opened and the mark is taken away. -/
def enter (reference : String) : Work Resolved := do
  let pointer := Pointer.canonical reference
  if pointer ∈ (← get).inProgress then
    throw (.cyclicReference reference "cycle through a type that is not an object class")
  else
    modify (·.mark pointer)
    let target ← unmarkingFailed pointer (ofRoot (SchemaClasses.resolve · reference))
    modify fun resolver => { resolver with blocks := pointer :: resolver.blocks }
    return ⟨pointer, target⟩

def leave : Work Unit := do
  match (← get).blocks with
  | [] => throw .nothingEntered
  | pointer :: blocks => modify fun resolver => { resolver.unmark pointer with blocks }

def perform : Call → Work Answer
  | .resolve reference => return .node (← ofRoot (SchemaClasses.resolve · reference))
  | .follow node => do
    let (resolved, inProgress) ← follow node
    return .followed resolved inProgress
  | .definitions reference include? =>
    return .definitions (← ofRoot (SchemaClasses.definitions · reference include?))
  | .enter reference => return .entered (← enter reference)
  | .leave => do
    leave
    return .left

/-- What a call returns, or why it fails, and the resolver after it. -/
def call (resolver : Resolver) (call : Call) : Except Failure Answer × Resolver :=
  match (perform call).run resolver with
  | .ok answer after => (.ok answer, after)
  | .error failure after => (.error failure, after)

def afterCalls (resolver : Resolver) (calls : List Call) : Resolver :=
  calls.foldl (fun resolver call => (resolver.call call).2) resolver

end Resolver

end SchemaClasses
