import SchemaClasses.Emit.Language
import SchemaClasses.Output.Path
import SchemaClasses.Settings

/-!
# Targets

A target says where the file of a class goes: below a base directory, in the directories of its
package, under the name of the class.

## Main definitions

* `Target`: where a file goes.
* `Target.path`: its path.
* `targetOf`: the target of a class.
-/

namespace SchemaClasses

structure Target where
  name : String
  extension : String
  directories : List String := []
  baseDirectory : Value := .string "."

namespace Target

/-- Whether two targets are the same. Their base directories may be numbers of different kinds. -/
def same (a b : Target) : Bool :=
  a.name = b.name && a.extension = b.extension && a.directories = b.directories &&
    a.baseDirectory.agrees b.baseDirectory

instance : BEq Target := ⟨same⟩

def fileName (target : Target) : String := target.name ++ "." ++ target.extension

def relativePath (target : Target) : Path := .ofParts (target.directories ++ [target.fileName])

def path (target : Target) : Except Failure Path :=
  match target.baseDirectory with
  | .string base => .ok (.ofText base ++ target.relativePath)
  | _ => .error .wrongType

def pathText (target : Target) : Except Failure String := Path.text <$> target.path

/-- A target that can be told apart from others: its base directory is no array or object. -/
def distinguishable (target : Target) : Except Failure Target :=
  if target.baseDirectory.isArray || target.baseDirectory.isObject then .error .wrongType
  else .ok target

end Target

def targetOf (language : TargetLanguage) (settings : Settings) (name : String) :
    Except Failure Target :=
  return { name, extension := language.extension, directories := ← settings.packageDirectories
           baseDirectory := settings.baseDirectory }

/-- Sets the text of a target: in its place if the target is there, else at the end. -/
def setTarget (target : Target) (text : String) : List (Target × String) → List (Target × String)
  | [] => [(target, text)]
  | (known, old) :: rest =>
    if known == target then (known, text) :: rest else (known, old) :: setTarget target text rest

end SchemaClasses
