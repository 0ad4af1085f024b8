import SchemaClasses.CommandLine.Options
import SchemaClasses.Document.Load
import SchemaClasses.Session
import SchemaClasses.Text.Terminal

/-!
# The command

The command reads a schema document and writes the files of its classes below an output directory,
or only says which files these are.

## Main definitions

* `Disk`: the files that the command works on.
* `Outcome`: how a run of the command ends.
* `runCommand`: the command.
* `FileTree.disk`: a file tree as the files of the command.
-/

namespace SchemaClasses

inductive PathStatus where
  | missing
  | directory
  | file
deriving DecidableEq

/-- The files that the command works on; `current` is the directory that relative paths start
from. -/
structure Disk (m : Type → Type) where
  current : Path
  status : Path → m PathStatus
  read : Path → m (Except Failure String)
  write : Path → String → m (Except Failure Unit)

inductive Outcome where
  /-- The command line is none that the command takes. -/
  | usageError
  /-- The command line asks for help. -/
  | help
  /-- The command has done its work and prints lines. -/
  | done (lines : List String)
  /-- The command ends with a failure. -/
  | failed (failure : Failure)

namespace Outcome

def exitCode : Outcome → Nat
  | .usageError => 2
  | .help | .done _ => 0
  | .failed _ => 1

def output : Outcome → String
  | .help => textOfLines Options.helpLines
  | .done lines => Text.withoutSequences (textOfLines lines)
  | _ => ""

/-- What the command prints as its complaint: a failure of generation is told by its message. -/
def complaint : Outcome → String
  | .usageError => Options.usage ++ "\n"
  | .failed failure =>
    if failure.isGeneration then Text.withoutSequences ("Error: " ++ failure.message ++ "\n")
    else ""
  | _ => ""

end Outcome

/-- A command line whose paths have been looked up. -/
structure Task where
  language : TargetLanguage
  options : Options
  config? : Option Path
  schema : Path
  output : Path

section

variable {m : Type → Type} [Monad m]

/-- The absolute path of an argument, if the status of the path is accepted. -/
def Disk.lookup (disk : Disk m) (accepts : PathStatus → Bool) (argument : String) :
    ExceptT Outcome m Path := do
  let path := Path.ofText argument
  if path.hasNull then throw (.failed (.invalidValue .nullInPath))
  let place := Path.resolved disk.current path
  if accepts (← disk.status place) then return place else throw .usageError

def Disk.lookupInput (disk : Disk m) (argument : String) : ExceptT Outcome m Path :=
  disk.lookup (· ≠ .missing) argument

def Disk.lookupOutput (disk : Disk m) (argument : String) : ExceptT Outcome m Path :=
  disk.lookup (· ≠ .file) argument

def Disk.lookupConfig (disk : Disk m) (options : Options) : ExceptT Outcome m (Option Path) := do
  match options.config? with
  | some config => return some (← disk.lookupInput config)
  | none => return none

def Options.chosenLanguage (options : Options) : Except Outcome TargetLanguage :=
  match TargetLanguage.ofName? options.language with
  | some language => .ok language
  | none => .error .usageError

/-- Looks up the language and the paths of a command line, the options in the order in which they
were given and the arguments after them, so that the first one that is wrong decides. -/
def Disk.task (disk : Disk m) (options : Options) : ExceptT Outcome m Task := do
  let configFirst := options.order.idxOf .config < options.order.idxOf .language
  let early? ← if configFirst then disk.lookupConfig options else pure none
  let language ← ExceptT.mk (pure options.chosenLanguage)
  let config? ← if configFirst then pure early? else disk.lookupConfig options
  match options.arguments with
  | [] => throw .usageError
  | schema :: rest =>
    let schema ← disk.lookupInput schema
    match rest with
    | [] => throw .usageError
    | output :: surplus =>
      let output ← disk.lookupOutput output
      if surplus.isEmpty then return { language, options, config?, schema, output }
      else throw .usageError

def Settings.ofText (text : String) : Except Failure Settings := do
  Settings.ofValue (← Json.read (String.ofList (Text.withNewlines text.toList)))

/-- The settings of a task: those of the configuration, with the package and the output of the
command line. -/
def Task.settings (task : Task) (config? : Option String) : Except Failure Settings := do
  let settings ← match config? with
    | some text => Settings.ofText text
    | none => pure {}
  let settings := match task.options.package? with
    | some package => { settings with basePackage := .string package }
    | none => settings
  return { settings with baseDirectory := .string task.output.text }

/-- The name for a class without a title: that of the schema's file up to its first dot. -/
def Task.fallbackName (task : Task) : String :=
  String.ofList (task.schema.stem.toList.takeWhile (· ≠ '.'))

def Task.request (task : Task) : Request :=
  match task.options.definitions? with
  | some pointer =>
    .members pointer (if task.options.members.isEmpty then none else some task.options.members)
  | none => .root (some task.fallbackName)

def Disk.writeAll (disk : Disk m) : List (Target × String) → m (Except Failure Unit)
  | [] => return .ok ()
  | (target, text) :: rest => do
    match target.path with
    | .error failure => return .error failure
    | .ok path =>
      match ← disk.write path text with
      | .error failure => return .error failure
      | .ok () => disk.writeAll rest

def Task.files (task : Task) (settings : Settings) (schema : String) :
    Except Failure (List (Target × String)) := do
  let document ← Node.ofFile task.schema.name schema
  SchemaClasses.render document settings task.language task.request

def Disk.perform (disk : Disk m) (task : Task) : ExceptT Failure m (List String) := do
  let config? ← match task.config? with
    | some path => do
      let text ← ExceptT.mk (disk.read path)
      pure (some text)
    | none => pure none
  let settings ← ExceptT.mk (pure (task.settings config?))
  let schema ← ExceptT.mk (disk.read task.schema)
  let files ← ExceptT.mk (pure (task.files settings schema))
  let paths ← ExceptT.mk (pure (files.mapM (·.1.pathText)))
  if task.options.dryRun then return paths
  ExceptT.mk (disk.writeAll files)
  return paths.map ("Generated " ++ ·)

def runCommand (disk : Disk m) (arguments : List String) : m Outcome := do
  match Options.parse? arguments with
  | none => return .usageError
  | some options =>
    if options.help then return .help
    match ← (disk.task options).run with
    | .error outcome => return outcome
    | .ok task =>
      match ← (disk.perform task).run with
      | .ok lines => return .done lines
      | .error failure => return .failed failure

end

def FileTree.status (tree : FileTree) (path : Path) : PathStatus :=
  match tree.at? path.names with
  | some (.file _) => .file
  | some .directory => .directory
  | none => .missing

def FileTree.disk (current : Path) : Disk (StateM FileTree) where
  current
  status path := return (← get).status path
  read path := return (← get).read path
  write path text := do
    match (FileTree.write path text).run (← get) with
    | .ok () tree => set tree; return .ok ()
    | .error failure tree => set tree; return .error failure

end SchemaClasses
