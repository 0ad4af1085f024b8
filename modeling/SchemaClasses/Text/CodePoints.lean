/-!
# Sets of characters

A class of characters is a list of code point ranges, both ends included. The blank characters are
one of them: they separate words without being visible.

## Main definitions

* `Text.CodePoints`: a set of characters.
* `Text.isBlank`: whether a character is blank.
* `Text.trimBlanks`: a text without the blanks around it.
-/

namespace SchemaClasses.Text

/-- A set of characters, by ranges of code points with both ends included. -/
abbrev CodePoints := List (Nat × Nat)

def CodePoints.contains (ranges : CodePoints) (c : Char) : Bool :=
  ranges.any fun (first, last) => first ≤ c.toNat && c.toNat ≤ last

/-- The blank characters: spaces of every width, tabs, line and paragraph ends, and the four
information separators. -/
def blanks : CodePoints := [
  (9, 13), (28, 32), (133, 133), (160, 160), (5760, 5760), (8192, 8202), (8232, 8233),
  (8239, 8239), (8287, 8287), (12288, 12288)]

def isBlank (c : Char) : Bool := blanks.contains c

def trimBlanks (text : List Char) : List Char :=
  ((text.dropWhile isBlank).reverse.dropWhile isBlank).reverse

end SchemaClasses.Text
