import SchemaClasses.Emit.Backend
import SchemaClasses.Output.Capture
import SchemaClasses.Output.FileTree

/-!
# Sessions

A session generates from one document after the other, with a language and settings that may change
in between, and keeps the files that it has written.

## Main definitions

* `Session`: the state of a session.
* `Session.generate`: renders the files of a request and writes them.
* `Session.Call`, `Session.perform`: the calls of a session, step by step.
* `Session.afterCalls`: a session that has been used.
* `FileTree.writeAll`: writes rendered files to a tree.
-/

namespace SchemaClasses

structure Session where
  language : TargetLanguage
  settings : Settings := {}
  captured : Capture := {}

namespace Session

/-- The files of a request; nothing is written. -/
def render (session : Session) (document : Node) (request : Request) :
    Except Failure (List (Target × String)) :=
  SchemaClasses.render document session.settings session.language request

/-- Renders the files of a request and writes them, if all of them could be rendered. -/
def generate (session : Session) (document : Node) (request : Request) :
    Except Failure (List Target × Session) := do
  let files ← session.render document request
  return (files.map (·.1), { session with captured := session.captured.writeAll files })

/-- A call of a session: a request for a document, or another language or other settings. -/
inductive Call where
  | render (document : Node) (request : Request)
  | generate (document : Node) (request : Request)
  | setLanguage (language : TargetLanguage)
  | setSettings (settings : Settings)

inductive Answer where
  | files (files : List (Target × String))
  | targets (targets : List Target)
  | nothing

/-- A step of a session. What it has changed is kept when it fails. -/
abbrev Work := EStateM Failure Session

/-- Renders the files of a request. The classes are built anew, and a new backend writes them. -/
def renderFiles (document : Node) (request : Request) : Work (List (Target × String)) := do
  let { language, settings, .. } ← get
  let (graph, classes) ← MonadExcept.ofExcept (requestedClasses document settings request)
  MonadExcept.ofExcept
    (Backend.outcome ((Backend.renderFiles graph [] classes).run { language, settings }))

def writeFiles : List (Target × String) → Work Unit
  | [] => return
  | (target, text) :: rest => do
    modify fun session => { session with captured := session.captured.write target text }
    writeFiles rest

def perform : Call → Work Answer
  | .render document request => return .files (← renderFiles document request)
  | .generate document request => do
    let files ← renderFiles document request
    writeFiles files
    return .targets (files.map (·.1))
  | .setLanguage language => do
    modify fun session => { session with language }
    return .nothing
  | .setSettings settings => do
    modify fun session => { session with settings }
    return .nothing

/-- What a call returns, or why it fails, and the session after it. -/
def call (session : Session) (call : Call) : Except Failure Answer × Session :=
  match (perform call).run session with
  | .ok answer after => (.ok answer, after)
  | .error failure after => (.error failure, after)

def afterCalls (session : Session) (calls : List Call) : Session :=
  calls.foldl (fun session call => (session.call call).2) session

end Session

namespace FileTree

def writeTarget (directory : Path) (target : Target) (text : String) : FileWork Unit := do
  match target.path with
  | .ok path => write (directory ++ path) text
  | .error failure => throw failure

/-- Writes rendered files to a tree, one after the other. When one cannot be written, those before
it have been. -/
def writeAll (directory : Path) : List (Target × String) → FileWork Unit
  | [] => return
  | (target, text) :: rest => do
    writeTarget directory target text
    writeAll directory rest

end FileTree

end SchemaClasses
