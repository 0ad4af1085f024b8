import SchemaClasses.Text.Split

/-!
# Pascal case

Class names are written in Pascal case: the words of a text, each with a capital first letter,
joined. A word is a run of small letters, a capital with the small letters after it, or a run of
digits; all other characters separate words. A text that is in Pascal case already stays as it is.

## Main definitions

* `words`: the words of a text.
* `pascalCase`: a text in Pascal case.
-/

namespace SchemaClasses

def inWord (c : Char) : Bool := c.isLower || c.isUpper || c.isDigit

/-- Whether a character goes on with the word of the character before it. -/
def continuesWordOf (before c : Char) : Bool :=
  (c.isLower && (before.isLower || before.isUpper)) || (c.isDigit && before.isDigit)

def words : List Char → List (List Char)
  | [] => []
  | c :: rest =>
    if inWord c then
      match rest, words rest with
      | next :: _, first :: others =>
        if continuesWordOf c next then (c :: first) :: others else [c] :: first :: others
      | _, others => [c] :: others
    else words rest

def capitalize : List Char → List Char
  | [] => []
  | c :: rest => c.toUpper :: rest.map Char.toLower

/-- Whether a text is in Pascal case: a capital followed by letters and digits, not all of the
letters being capitals. A line feed at the end is passed over. -/
def isPascalCase (text : List Char) : Bool :=
  match text with
  | [] => false
  | c :: _ =>
    c.isUpper && (Text.dropFinalNewline text).all Char.isAlphanum && text.any Char.isLower

/-- A text with an underscore before it if it begins with a digit. -/
def guardDigit : List Char → List Char
  | [] => []
  | c :: rest => if c.isDigit then '_' :: c :: rest else c :: rest

def pascalChars (text : List Char) : List Char :=
  if isPascalCase text then text else guardDigit ((words text).flatMap capitalize)

def pascalCase (text : String) : String := String.ofList (pascalChars text.toList)

end SchemaClasses
