import SchemaClasses.Failure
import SchemaClasses.Text.Split
import SchemaClasses.Value.Display

/-!
# Settings

The settings of a run. They are taken from a configuration object as they are; a setting is looked
at only where it is used, and what it holds decides then.

## Main definitions

* `Settings`: the settings, with their defaults.
* `Settings.set`, `Settings.ofValue`: settings from configuration members; unknown ones are passed
  over.
* `Settings.packageDirectories`: the directories that a package name stands for.
* `Settings.ignores`: whether a class is not to be written.
-/

namespace SchemaClasses

structure Settings where
  /-- The package of every class. -/
  basePackage : Value := .string ""
  /-- The directory below which all files are written. -/
  baseDirectory : Value := .string "."
  /-- Whether files are written to directories named after the parts of the package. -/
  deriveDirectories : Value := .bool true
  /-- Whether files begin with a comment that says where they come from. -/
  addGenerationComment : Value := .bool true
  /-- The names of classes that are not written. -/
  ignoreClasses : Value := .array []
  /-- Whether constructors check the validation keywords. -/
  addValidation : Value := .bool true

namespace Settings

/-- Settings with one of them replaced, by the name it has in a configuration. -/
def set (settings : Settings) (key : String) (value : Value) : Settings :=
  match key with
  | "base_package" => { settings with basePackage := value }
  | "base_directory" => { settings with baseDirectory := value }
  | "derive_directories" => { settings with deriveDirectories := value }
  | "add_generation_comment" => { settings with addGenerationComment := value }
  | "ignore_classes" => { settings with ignoreClasses := value }
  | "add_validation" => { settings with addValidation := value }
  | _ => settings

/-- The default settings with the members of a configuration set in order. -/
def ofMembers (members : List (String × Value)) : Settings :=
  members.foldl (fun settings (key, value) => settings.set key value) {}

def ofValue : Value → Except Failure Settings
  | .object members => .ok (ofMembers members)
  | _ => .error .missingPart

def toMembers (settings : Settings) : List (String × Value) :=
  [("base_package", settings.basePackage), ("base_directory", settings.baseDirectory),
    ("derive_directories", settings.deriveDirectories),
    ("add_generation_comment", settings.addGenerationComment),
    ("ignore_classes", settings.ignoreClasses), ("add_validation", settings.addValidation)]

def same (a b : Settings) : Bool := Value.sameMembers a.toMembers b.toMembers

/-- The directories that the package stands for: its parts, if directories are derived and there is
a package. -/
def packageDirectories (settings : Settings) : Except Failure (List String) :=
  if !settings.deriveDirectories.isTruthy || !settings.basePackage.isTruthy then .ok []
  else match settings.basePackage with
    | .string package => .ok ((Text.splitAt '.' package.toList).map String.ofList)
    | _ => .error .missingPart

/-- Whether a class is ignored: its name is in the list, or part of the text, of ignored names. -/
def ignores (settings : Settings) (name : String) : Except Failure Bool :=
  match settings.ignoreClasses with
  | .array names => .ok (names.any (·.isString name))
  | .string names => .ok (Text.occursIn name.toList names.toList)
  | .object names => .ok (names.any fun (key, _) => key = name)
  | _ => .error .wrongType

end Settings

end SchemaClasses
