import SchemaClasses.Text.Split

/-!
# Identifiers

An identifier is a letter or an underscore followed by letters, digits and underscores, all of them
ASCII. One line feed at the end is passed over.
-/

namespace SchemaClasses

def beginsIdentifier (c : Char) : Bool := c.isAlpha || c = '_'

def continuesIdentifier (c : Char) : Bool := c.isAlphanum || c = '_'

/-- Whether the characters are a letter or an underscore and then letters, digits and
underscores. -/
def isPlainIdentifier : List Char → Bool
  | [] => false
  | c :: rest => beginsIdentifier c && rest.all continuesIdentifier

/-- Whether a text is an identifier, a line feed at its end being passed over. -/
def isIdentifier (text : String) : Bool :=
  isPlainIdentifier (Text.dropFinalNewline text.toList)

end SchemaClasses
