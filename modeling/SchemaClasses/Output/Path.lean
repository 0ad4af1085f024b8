import SchemaClasses.Text.Split

/-!
# Paths

A path is a root, which may be missing, and the names after it. Empty names and single dots are
dropped; double dots are kept, since they may lead out of a link. Two slashes at the start are a
root of their own.

## Main definitions

* `Path`: a path.
* `Path.ofParts`: a path from parts, of which an absolute one discards those before it.
* `Path.text`: the text of a path.
* `Path.suffix`, `Path.stem`: the two parts of the last name.
* `Path.isLong`, `Path.isLongName`, `Path.hasNull`: what makes a path unusable.
* `Path.resolved`: an absolute path without double dots.
-/

namespace SchemaClasses

structure Path where
  /-- The slashes that an absolute path begins with. -/
  root : String
  names : List String
deriving DecidableEq

namespace Path

def rootOf (text : List Char) : String :=
  match (text.takeWhile (· = '/')).length with
  | 0 => ""
  | 2 => "//"
  | _ => "/"

def namesOf (text : List Char) : List String :=
  ((Text.splitAt '/' text).map String.ofList).filter fun name => name ≠ "" && name ≠ "."

def ofText (text : String) : Path := ⟨rootOf text.toList, namesOf text.toList⟩

/-- A path followed by another one, which stands alone if it is absolute. -/
def append (path next : Path) : Path :=
  if next.root = "" then ⟨path.root, path.names ++ next.names⟩ else next

instance : Append Path := ⟨append⟩

def ofParts (parts : List String) : Path :=
  parts.foldl (fun path part => path ++ ofText part) ⟨"", []⟩

/-- The text of a path; a path without root and names is the current directory. -/
def text (path : Path) : String :=
  match path.root ++ "/".intercalate path.names with
  | "" => "."
  | text => text

def name (path : Path) : String := path.names.getLastD ""

def parent (path : Path) : Path := { path with names := path.names.dropLast }

def isLongName (name : String) : Bool := 255 < name.utf8ByteSize

def isLong (path : Path) : Bool := 4095 < path.text.utf8ByteSize

/-- Whether a path has a character in it that ends texts for the system. -/
def hasNull (path : Path) : Bool := path.names.any (·.toList.contains '\x00')

/-- The name under which a file is drafted. A token of eight characters tells it from others. -/
def draftName (path : Path) (token : String) : String := "." ++ path.name ++ "." ++ token ++ ".tmp"

def draft (path : Path) (token : String) : Path :=
  { path with names := path.names.dropLast ++ [path.draftName token] }

/-- A name cut before its last dot, unless the dot is its first or last character. -/
def splitName (name : List Char) : List Char × List Char :=
  let tail := name.reverse.takeWhile (· ≠ '.')
  let stem := name.take (name.length - tail.length - 1)
  if tail.length = name.length || tail.isEmpty || stem.isEmpty then (name, [])
  else (stem, '.' :: tail.reverse)

def stem (path : Path) : String := String.ofList (splitName path.name.toList).1

def suffix (path : Path) : String := String.ofList (splitName path.name.toList).2

/-- The names on a path where each double dot takes back the name before it. -/
def withoutDoubleDots (names : List String) : List String :=
  names.foldl (fun kept name => if name = ".." then kept.dropLast else kept ++ [name]) []

/-- The absolute path without double dots that a path leads to from a directory. -/
def resolved (directory path : Path) : Path :=
  ⟨"/", withoutDoubleDots (directory ++ path).names⟩

end Path

end SchemaClasses
