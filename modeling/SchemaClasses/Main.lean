import SchemaClasses.CommandLine.Run

/-!
# The program

The command on the files of the system. A file is written beside its place first and then moved
there, so that a run that is interrupted leaves no half-written file.

## Main definitions

* `systemDisk`: the files of the system.
* `main`: the program.
-/

namespace SchemaClasses

def failureOfError : IO.Error → Failure
  | .alreadyExists .. => .fileExists
  | .inappropriateType .. => .notDirectory
  | _ => .notFound

def attempt {α : Type} (action : IO α) : IO (Except Failure α) := do
  match ← action.toBaseIO with
  | .ok result => return .ok result
  | .error error => return .error (failureOfError error)

def systemStatus (path : Path) : IO PathStatus := do
  match ← (IO.FS.realPath path.text).toBaseIO with
  | .ok place => return if ← place.isDir then .directory else .file
  | .error _ => return .missing

def readSystemFile (path : Path) : IO (Except Failure String) := do
  if (← systemStatus path) = .directory then return .error .isDirectory
  match ← attempt (IO.FS.readBinFile path.text) with
  | .error failure => return .error failure
  | .ok bytes =>
    match Text.decodeUtf8? (bytes.toList.map UInt8.toNat) with
    | some text => return .ok (String.ofList text)
    | none => return .error .malformedUtf8

/-- Writes a file of the system, with the directories on the way to it. -/
def writeSystemFile (path : Path) (text : String) : IO (Except Failure Unit) := do
  if path.hasNull then return .error (.invalidValue .nullInPath)
  if (← systemStatus path) = .directory then return .error .isDirectory
  let stamp := toString (← IO.monoNanosNow)
  let draft := (path.parent ++ Path.ofText ("." ++ path.name ++ "." ++ stamp ++ ".tmp")).text
  attempt do
    IO.FS.createDirAll path.parent.text
    try
      IO.FS.writeFile draft text
      IO.FS.rename draft path.text
    catch error =>
      let _ ← (IO.FS.removeFile draft).toBaseIO
      throw error

def systemDisk (current : Path) : Disk IO where
  current
  status := systemStatus
  read := readSystemFile
  write := writeSystemFile

/-- What the program says about a failure that is no failure of generation. -/
def troubleText (failure : Failure) : String :=
  let message := failure.message
  "Error: " ++ (if message.isEmpty then "the files cannot be read or written" else message) ++ "\n"

end SchemaClasses

open SchemaClasses in
/-- The program: runs the command, prints what it says and ends with its exit code. -/
def main (arguments : List String) : IO UInt32 := do
  let current := Path.ofText (toString (← IO.currentDir))
  let outcome ← runCommand (systemDisk current) arguments
  IO.print outcome.output
  IO.eprint (match outcome with
    | .failed failure => if failure.isGeneration then outcome.complaint else troubleText failure
    | _ => outcome.complaint)
  return UInt32.ofNat outcome.exitCode
