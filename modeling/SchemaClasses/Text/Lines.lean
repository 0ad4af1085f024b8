/-!
# Lines

Texts are cut into lines at every line end that a reader of source text may take for one, and
indented line by line. A position in a text is a count of characters from the start; messages show
it as a line and a column, both counted from one.

## Main definitions

* `Text.lines`: the lines of a text.
* `Text.withNewlines`: a text with every kind of line feed and carriage return as one line feed.
* `Text.indent`: lines moved to the right, empty ones excepted.
* `Text.lineAndColumn`: a position in a text as a line and a column.
-/

namespace SchemaClasses.Text

/-- The characters that end a line: line feeds and returns, vertical tabs and form feeds, the
separators 1C to 1E, the next-line control, and the line and paragraph separators. -/
def endsLine (c : Char) : Bool :=
  [10, 11, 12, 13, 0x1C, 0x1D, 0x1E, 0x85, 0x2028, 0x2029].contains c.toNat

/-- Cuts a text at its line ends, a return followed by a line feed being one. `current` holds the
characters of the unfinished line, last one first. -/
def linesFrom (current : List Char) : List Char → List (List Char)
  | [] => if current.isEmpty then [] else [current.reverse]
  | '\r' :: '\n' :: rest => current.reverse :: linesFrom [] rest
  | c :: rest =>
    if endsLine c then current.reverse :: linesFrom [] rest else linesFrom (c :: current) rest

/-- The lines of a text, without their ends; a line end at the end of the text begins no line. -/
def lines (text : String) : List String := (linesFrom [] text.toList).map String.ofList

/-- A text with every return, also one before a line feed, as a single line feed. -/
def withNewlines : List Char → List Char
  | [] => []
  | '\r' :: '\n' :: rest => '\n' :: withNewlines rest
  | c :: rest => (if c = '\r' then '\n' else c) :: withNewlines rest

def indentation : String := "    "

/-- Lines moved one level to the right; empty lines stay empty. -/
def indent (lines : List String) : List String :=
  lines.map fun line => if line.isEmpty then line else indentation ++ line

def lineAndColumn (text : List Char) (offset : Nat) : Nat × Nat :=
  let before := text.take offset
  let lastLine := before.reverse.takeWhile (· != '\n')
  (before.count '\n' + 1, lastLine.length + 1)

end SchemaClasses.Text
