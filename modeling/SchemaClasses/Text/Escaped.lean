import SchemaClasses.Text.Digit
import SchemaClasses.Text.Printable

/-!
# Escaped texts

A text between quotation marks that is written with visible ASCII characters only: the quotation
mark and the backslash are escaped by a backslash, five controls by a letter, and all else by its
UTF-16 units in four hexadecimal digits each.

A text quoted in a message stands between apostrophes, or between quotation marks when it holds an
apostrophe and no quotation mark. The mark and the backslash are escaped, and so is every character
without a visible form.

## Main definitions

* `Text.escape`: a string between quotation marks, escaped.
* `Text.quote`: a string as it is quoted in messages.
-/

namespace SchemaClasses.Text

/-! ## Escaped texts -/

def utf16Units (c : Char) : List Nat :=
  if c.toNat < 0x10000 then [c.toNat]
  else
    let offset := c.toNat - 0x10000
    [0xD800 + offset / 0x400, 0xDC00 + offset % 0x400]

def unitEscape (unit : Nat) : List Char := '\\' :: 'u' :: hexDigits 4 unit

def escapedChar (c : Char) : List Char :=
  if c = '"' || c = '\\' then ['\\', c]
  else if c = '\n' then ['\\', 'n']
  else if c = '\r' then ['\\', 'r']
  else if c = '\t' then ['\\', 't']
  else if c.toNat = 8 then ['\\', 'b']
  else if c.toNat = 12 then ['\\', 'f']
  else if ' ' ≤ c ∧ c ≤ '~' then [c]
  else (utf16Units c).flatMap unitEscape

/-- The characters of a text, escaped, without the quotation marks around them. -/
def escapedChars (text : List Char) : List Char := text.flatMap escapedChar

def escaped (text : List Char) : List Char := '"' :: (escapedChars text ++ ['"'])

def escape (text : String) : String := String.ofList (escaped text.toList)

/-! ## Quoted texts in messages -/

def quotationMark (text : List Char) : Char :=
  if text.contains '\'' && !text.contains '"' then '"' else '\''

/-- The escape of a character by its code point, in the shortest form that fits. -/
def codePointEscape (c : Char) : List Char :=
  if c.toNat < 0x100 then '\\' :: 'x' :: hexDigits 2 c.toNat
  else if c.toNat < 0x10000 then '\\' :: 'u' :: hexDigits 4 c.toNat
  else '\\' :: 'U' :: hexDigits 8 c.toNat

def quotedChar (mark c : Char) : List Char :=
  if c = mark || c = '\\' then ['\\', c]
  else if c = '\t' then ['\\', 't']
  else if c = '\n' then ['\\', 'n']
  else if c = '\r' then ['\\', 'r']
  else if isPrintable c then [c]
  else codePointEscape c

def quoted (text : List Char) : List Char :=
  let mark := quotationMark text
  mark :: (text.flatMap (quotedChar mark) ++ [mark])

def quote (text : String) : String := String.ofList (quoted text.toList)

end SchemaClasses.Text
