import SchemaClasses.Output.Target

/-!
# File trees

A tree of directories with files in them. A file is drafted beside its place, under a name that
nothing has, and then moved there: either the tree holds it afterwards, with the directories on the
way to it, or no file of the tree has changed.

## Main definitions

* `FileTree`: a tree.
* `FileWork`: work on a tree, which may fail.
* `FileTree.makeDirectories`, `FileTree.makeNewDirectory`: make a directory and those on the way to
  it.
* `FileTree.create`, `FileTree.rename`: make an empty file and move a file.
* `FileTree.replace`: drafts a file and moves it to its place.
* `FileTree.write`: writes a file, with the directories on the way to it.
* `FileTree.read`: the text of a file.
* `FileTree.listing`: the files and the empty directories, in order.
-/

namespace SchemaClasses

inductive FileEntry where
  | directory
  | file (text : String)
deriving DecidableEq

/-- A tree of directories and files, each by the names on the way to it. The root is a directory
that is always there. -/
structure FileTree where
  entries : List (List String × FileEntry) := []

/-- Work on a tree. What was made before a failure stays. -/
abbrev FileWork := EStateM Failure FileTree

namespace FileTree

def at? (tree : FileTree) (place : List String) : Option FileEntry :=
  if place.isEmpty then some .directory else tree.entries.lookup place

def put (tree : FileTree) (place : List String) (entry : FileEntry) : FileTree :=
  if (tree.at? place).isSome then
    ⟨tree.entries.map fun (known, old) => (known, if known = place then entry else old)⟩
  else ⟨tree.entries ++ [(place, entry)]⟩

def remove (tree : FileTree) (place : List String) : FileTree :=
  ⟨tree.entries.filter (·.1 ≠ place)⟩

/-- Makes the directories on the way from a place along names. `made` says that the last one was
made just now, and `earlier` that one was made before it. A file on the way stands in the place of
a directory to be made if it comes last or after one that was made; else it is met on the walk to
that place. The result says whether the last directory is new. -/
def makeFrom (place : List String) (made earlier : Bool) : List String → FileWork Bool
  | [] => return made
  | ".." :: rest => makeFrom place.dropLast false (made || earlier) rest
  | name :: rest => do
    let next := place ++ [name]
    match (← get).at? next with
    | some (.file _) =>
      throw (if made || earlier || rest.isEmpty then .fileExists else .notDirectory)
    | some .directory => makeFrom next false (made || earlier) rest
    | none =>
      if Path.isLongName name then throw .unusablePath
      modify (·.put next .directory)
      makeFrom next true (made || earlier) rest

/-- Makes a directory and those on the way to it, unless they are there. The result says whether it
is new. -/
def makeDirectories (path : Path) : FileWork Bool := do
  if path.hasNull then throw (.invalidValue .nullInPath)
  if path.isLong then throw .unusablePath
  makeFrom [] false false path.names

def makeNewDirectory (path : Path) : FileWork Unit := do
  if !(← makeDirectories path) then throw .fileExists

def create (place : List String) : FileWork Unit := do
  match (← get).at? place.dropLast, (← get).at? place with
  | none, _ => throw .notFound
  | some (.file _), _ => throw .notDirectory
  | some .directory, some _ => throw .fileExists
  | some .directory, none => modify (·.put place (.file ""))

/-- Moves a file to a place where it may stand instead of another file, but not of a directory. -/
def rename (source target : List String) : FileWork Unit := do
  match (← get).at? source, (← get).at? target with
  | some (.file _), some .directory => throw .isDirectory
  | some (.file text), _ => modify fun tree => (tree.remove source).put target (.file text)
  | _, _ => throw .notFound

/-- The tokens for the names of drafts, in the order in which they are tried. -/
def tokenAt (index : Nat) : String := String.ofList ((Nat.toDigits 10 index).leftpad 8 '0')

def draftPlace (path : Path) (token : String) : List String :=
  Path.withoutDoubleDots (path.draft token).names

/-- Drafts a file beside its place and moves it there. A draft that cannot be moved is removed. -/
def replace (path : Path) (text token : String) : FileWork Unit := do
  if path.hasNull then throw (.invalidValue .nullInPath)
  -- All drafts of a file have names of the same length.
  let token₀ := tokenAt 0
  if (path.draft token₀).isLong || Path.isLongName (path.draftName token₀) then throw .unusablePath
  let place := draftPlace path token
  create place
  try
    modify (·.put place (.file text))
    if path.name = ".." then throw .unusablePath
    rename place (Path.withoutDoubleDots path.names)
  catch failure =>
    modify (·.remove place)
    throw failure

def isFresh (tree : FileTree) (path : Path) (token : String) : Bool :=
  (tree.at? (draftPlace path token)).isNone

/-- The first token for the draft of a file that is fresh. One more than there are entries is
enough to try. -/
def freshToken (path : Path) (tree : FileTree) : String :=
  let tried := List.range tree.entries.length
  tokenAt ((tried.find? fun index => tree.isFresh path (tokenAt index)).getD tree.entries.length)

/-- Writes a file, with the directories on the way to it. `token` chooses the name of the draft. -/
def write (path : Path) (text : String) (token : FileTree → String := freshToken path) :
    FileWork Unit := do
  let _ ← makeDirectories path.parent
  replace path text (token (← get))

def read (tree : FileTree) (path : Path) : Except Failure String :=
  let place := Path.withoutDoubleDots path.names
  match tree.at? place with
  | some (.file text) => .ok text
  | some .directory => .error .isDirectory
  | none => .error .notFound

def isEmptyDirectory (tree : FileTree) (place : List String) : Bool :=
  tree.entries.all fun (other, _) => other.dropLast ≠ place

/-- The line of an entry in a listing: a file with its text, or a directory, with a slash after its
path, if it is empty. -/
def listed (tree : FileTree) (place : List String) : FileEntry → Option (String × Option String)
  | .file text => some ("/".intercalate place, some text)
  | .directory =>
    if tree.isEmptyDirectory place then some ("/".intercalate place ++ "/", none) else none

/-- The files and the empty directories, in the order of their paths. -/
def listing (tree : FileTree) : List (String × Option String) :=
  (tree.entries.filterMap fun (place, entry) => tree.listed place entry).mergeSort
    fun a b => a.1 ≤ b.1

end FileTree

end SchemaClasses
