import SchemaClasses.Text.Lines

/-!
# The layout of declarations

A class declaration is laid out as lines: those that declare the class, and then sections with a
blank line between them.

## Main definitions

* `Section`: lines that belong together.
* `withCommas`: lines with a comma after each but the last.
* `Declaration`: the lines and sections of a class.
* `textOfLines`: lines as a text.
-/

namespace SchemaClasses

abbrev Section := List String

structure Declaration where
  /-- The lines before the body. -/
  head : List String
  /-- The sections of the body. -/
  sections : List Section

/-- Lines with a mark after each but the last. -/
def markedLines (mark : String) : List String → List String
  | [] => []
  | [line] => [line]
  | line :: rest => (line ++ mark) :: markedLines mark rest

def withCommas (lines : List String) : List String := markedLines "," lines

def textOfLines (lines : List String) : String := String.join (lines.map (· ++ "\n"))

def spaced (sections : List Section) : List String := sections.flatMap ("" :: ·)

def separated (sections : List Section) : List String := (spaced sections).drop 1

def indented (levels : Nat) (line : String) : String :=
  match levels with
  | 0 => line
  | levels + 1 => Text.indentation ++ indented levels line

end SchemaClasses
