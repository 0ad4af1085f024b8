import SchemaClasses.Text.Percent
import SchemaClasses.Text.Split

/-!
# Pointers

A pointer names a node of a document by the member names and array indexes that lead to it, each
after a slash. In a segment, `~1` stands for a slash and `~0` for a tilde. A reference may write a
pointer after a number sign, and then percent-encode it.

## Main definitions

* `Pointer.escapeSegment`, `Pointer.unescapeSegment`: the written form of a segment.
* `Pointer.segments`: the segments of a pointer.
* `Pointer.tail`: the last segment.
* `Pointer.canonical`: the plain form of a reference.
-/

namespace SchemaClasses.Pointer

def escapeChars (segment : List Char) : List Char :=
  segment.flatMap fun c =>
    if c = '~' then ['~', '0'] else if c = '/' then ['~', '1'] else [c]

def unescapeChars : List Char → List Char
  | '~' :: '1' :: rest => '/' :: unescapeChars rest
  | '~' :: '0' :: rest => '~' :: unescapeChars rest
  | c :: rest => c :: unescapeChars rest
  | [] => []

def escapeSegment (name : String) : String := String.ofList (escapeChars name.toList)

def unescapeSegment (segment : List Char) : String := String.ofList (unescapeChars segment)

def dropTrailingSlashes (text : List Char) : List Char :=
  (text.reverse.dropWhile (· = '/')).reverse

/-- The member names and indexes of a plain pointer. What stands before the first slash is not
looked at. -/
def segments (pointer : String) : List String :=
  (Text.splitAt '/' pointer.toList).tail.map unescapeSegment

/-- The last segment of a pointer, trailing slashes apart. -/
def tail (pointer : String) : String :=
  unescapeSegment ((Text.splitAt '/' (dropTrailingSlashes pointer.toList)).getLastD [])

def isLocal (reference : String) : Bool :=
  match reference.toList with
  | '#' :: _ | '/' :: _ => true
  | _ => false

/-- The plain pointer that a reference writes. Slashes at the end are dropped, except in the
pointer that is a single slash. -/
def canonical (reference : String) : String :=
  let pointer := match reference.toList with
    | '#' :: encoded => Text.percentDecode encoded
    | plain => plain
  if pointer = ['/'] then "/" else String.ofList (dropTrailingSlashes pointer)

end SchemaClasses.Pointer
