import SchemaClasses.Build.Run
import SchemaClasses.Emit.File
import SchemaClasses.Output.Target

/-!
# Generation

A run builds the classes of a document and renders their files. All files of a run are rendered
before any of them is written, so that a run that fails writes nothing.

## Main definitions

* `Request`: what to generate from a document.
* `renderClasses`: the files of classes.
* `render`: the files of a request, or the reason why there are none.
-/

namespace SchemaClasses

inductive Request where
  /-- The class of the whole document, under a name if it has no title. -/
  | root (name? : Option String)
  /-- The classes of the members of a container, or of those with the given names. -/
  | members (pointer : String) (include? : Option (List String))

/-- Adds the files of classes to those rendered so far. Ignored classes have none. -/
def renderClasses (graph : ClassGraph) (settings : Settings) (language : TargetLanguage)
    (rendered : List (Target × String)) : List ClassId → Except Failure (List (Target × String))
  | [] => .ok rendered
  | id :: rest => do
    let name := (graph.get id).name
    if ← settings.ignores name then renderClasses graph settings language rendered rest
    else
      let text ← fileText graph settings language id
      let target ← (← targetOf language settings name).distinguishable
      renderClasses graph settings language (setTarget target text rendered) rest

def buildRequested (source : Source) : Request → Build (List ClassId)
  | .root name? => return [← buildRoot source source.root name?]
  | .members pointer include? => do
    let entries ← Build.ofExcept (definitions source.root pointer include?)
    let registered ← registerDefinitions entries
    (registered.filter (·.selected)).mapM (buildDefinition source)

/-- The classes of a request with their graph: each class asked for is followed by those that belong
to it. -/
def requestedClasses (document : Node) (settings : Settings) (request : Request) :
    Except Failure (ClassGraph × List ClassId) :=
  match (buildRequested ⟨document, settings.basePackage⟩ request).run {} with
  | .ok owners state => .ok (state.graph, owners.flatMap state.owned)
  | .error failure _ => .error failure

def render (document : Node) (settings : Settings) (language : TargetLanguage)
    (request : Request) : Except Failure (List (Target × String)) := do
  let (graph, classes) ← requestedClasses document settings request
  renderClasses graph settings language [] classes

end SchemaClasses
