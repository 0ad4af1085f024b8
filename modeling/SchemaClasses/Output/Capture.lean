import SchemaClasses.Output.Target

/-!
# Captured files

Files kept in memory instead of being written, in the order in which their targets were first
written.

## Main definitions

* `Capture`: the captured files.
* `Capture.text`, `Capture.textByName`: the text of a file; a file that was never written is empty.
-/

namespace SchemaClasses

structure Capture where
  files : List (Target × String) := []

namespace Capture

def write (capture : Capture) (target : Target) (text : String) : Capture :=
  ⟨setTarget target text capture.files⟩

def writeAll (capture : Capture) (files : List (Target × String)) : Capture :=
  files.foldl (fun capture (target, text) => capture.write target text) capture

def targets (capture : Capture) : List Target := capture.files.map (·.1)

def contains (capture : Capture) (target : Target) : Bool := capture.targets.any (· == target)

def text (capture : Capture) (target : Target) : String := (capture.files.lookup target).getD ""

def textByName (capture : Capture) (name : String) : String :=
  ((capture.files.find? (·.1.name = name)).map (·.2)).getD ""

end Capture

end SchemaClasses
