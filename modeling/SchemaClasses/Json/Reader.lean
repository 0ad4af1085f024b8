import SchemaClasses.Number.Decimal
import SchemaClasses.Text.Lines
import SchemaClasses.Value

/-!
# Reading JSON

A reader for JSON texts that keeps integers and floating-point numbers apart, admits the numbers
`NaN`, `Infinity` and `-Infinity`, and reports the first fault with its position. A number is read
as far as it makes sense, so that a wrong tail is found by what reads on.

## Main definitions

* `Json.Fault`: what is wrong, and how many characters stand from there to the end.
* `Json.readValue`: a value and the text after it.
* `Json.read`: a whole text.
-/

namespace SchemaClasses.Json

inductive Problem where
  | expectingValue
  | expectingName
  | expectingColon
  | expectingComma
  | unterminatedString
  | controlCharacter
  | invalidEscape
  | invalidUnicodeEscape
  | extraData
  | byteOrderMark
deriving DecidableEq

def Problem.message : Problem → String
  | .expectingValue => "Expecting value"
  | .expectingName => "Expecting property name enclosed in double quotes"
  | .expectingColon => "Expecting ':' delimiter"
  | .expectingComma => "Expecting ',' delimiter"
  | .unterminatedString => "Unterminated string starting at"
  | .controlCharacter => "Invalid control character at"
  | .invalidEscape => "Invalid \\escape"
  | .invalidUnicodeEscape => "Invalid \\uXXXX escape"
  | .extraData => "Extra data"
  | .byteOrderMark => "Unexpected UTF-8 BOM (decode using utf-8-sig)"

/-- Why reading stopped: a problem at the place from which `remaining` characters are left, or a
number that is too long. -/
inductive Fault where
  | problem (problem : Problem) (remaining : Nat)
  | number (failure : Failure)

def fault {α : Type} (problem : Problem) (rest : List Char) : Except Fault α :=
  .error (.problem problem rest.length)

def isSpace (c : Char) : Bool := c = ' ' || c = '\t' || c = '\n' || c = '\r'

def skipSpaces (text : List Char) : List Char := text.dropWhile isSpace

def escapeLetter? (c : Char) : Option Char :=
  match c with
  | '"' | '\\' | '/' => some c
  | 'b' => some (Char.ofNat 8)
  | 'f' => some (Char.ofNat 12)
  | 'n' => some '\n'
  | 'r' => some '\r'
  | 't' => some '\t'
  | _ => none

/-- The number of four hexadecimal digits, which must not be the end of the text; `announced` is the
text from the letter that announces them. -/
def readUnit (announced rest : List Char) : Except Fault (Nat × List Char) :=
  if (rest.drop 4).isEmpty then fault .invalidUnicodeEscape announced
  else match Text.hexNumber? (rest.take 4) with
    | some unit => .ok (unit, rest.drop 4)
    | none => fault .invalidUnicodeEscape announced

/-- The character of a UTF-16 unit; half of a pair on its own becomes the replacement character. -/
def unitChar (unit : Nat) : Char :=
  if 0xD800 ≤ unit ∧ unit ≤ 0xDFFF then Char.ofNat 0xFFFD else Char.ofNat unit

/-- The character of an escape by code, and the text after it: two units that form a pair are one
character. -/
def readCodeEscape (announced rest : List Char) : Except Fault (Char × List Char) := do
  let (unit, rest) ← readUnit announced rest
  match rest with
  | '\\' :: 'u' :: more =>
    if 0xD800 ≤ unit ∧ unit ≤ 0xDBFF ∧ !(more.drop 4).isEmpty then
      let (second, after) ← readUnit ('u' :: more) more
      if 0xDC00 ≤ second ∧ second ≤ 0xDFFF then
        return (Char.ofNat (0x10000 + (unit - 0xD800) * 0x400 + (second - 0xDC00)), after)
      else return (unitChar unit, rest)
    else return (unitChar unit, rest)
  | _ => return (unitChar unit, rest)

def isPlain (c : Char) : Bool := c != '"' && c != '\\' && 0x20 ≤ c.toNat

/-- The characters of a string up to its closing mark, and the text after that. `start` is the text
from the opening mark, and `fuel` bounds the count of escapes. -/
def readString (start : List Char) : Nat → List Char → Except Fault (List Char × List Char)
  | 0, _ => fault .unterminatedString start
  | fuel + 1, text =>
    let plain := text.takeWhile isPlain
    match text.dropWhile isPlain with
    | [] | ['\\'] => fault .unterminatedString start
    | '"' :: after => .ok (plain, after)
    | '\\' :: 'u' :: digits => do
      let (read, after) ← readCodeEscape ('u' :: digits) digits
      let (chars, after) ← readString start fuel after
      return (plain ++ read :: chars, after)
    | '\\' :: letter :: after =>
      match escapeLetter? letter with
      | some read => do
        let (chars, after) ← readString start fuel after
        return (plain ++ read :: chars, after)
      | none => fault .invalidEscape ('\\' :: letter :: after)
    | rest => fault .controlCharacter rest

def readText (rest : List Char) : Except Fault (String × List Char) := do
  let (chars, after) ← readString ('"' :: rest) (rest.length + 1) rest
  return (String.ofList chars, after)

/-- The fraction at the start of a text: a point and at least one digit. -/
def takeFraction : List Char → Option (List Char) × List Char
  | '.' :: rest =>
    if (rest.takeWhile Char.isDigit).isEmpty then (none, '.' :: rest)
    else (some (rest.takeWhile Char.isDigit), rest.dropWhile Char.isDigit)
  | text => (none, text)

/-- The exponent at the start of a text: a letter, an optional sign and at least one digit. -/
def takeExponent (text : List Char) : Option Int × List Char :=
  match text with
  | c :: rest =>
    let (negative, digits) := takeSign rest
    let shown := digits.takeWhile Char.isDigit
    if (c = 'e' || c = 'E') && !shown.isEmpty then
      let size : Int := digitsValue shown
      (some (if negative then -size else size), digits.dropWhile Char.isDigit)
    else (none, text)
  | [] => (none, [])

/-- The number after its sign, and the text after it; none when it does not begin with a digit.
A leading zero is a number by itself. -/
def readNumber? (negative : Bool) (text : List Char) : Option (Except Fault Value × List Char) :=
  let whole? := match text with
    | '0' :: rest => some (['0'], rest)
    | c :: _ =>
      if c.isDigit then some (text.takeWhile Char.isDigit, text.dropWhile Char.isDigit) else none
    | [] => none
  whole?.map fun (whole, rest) =>
    let (fraction?, rest) := takeFraction rest
    let (exponent?, rest) := takeExponent rest
    match fraction?, exponent? with
    | none, none =>
      match readDigits whole with
      | .ok n => (.ok (.int (if negative then -(n : Int) else n)), rest)
      | .error failure => (.error (.number failure), rest)
    | _, _ =>
      let fraction := fraction?.getD []
      let digits := digitsValue (whole ++ fraction)
      (.ok (.float (.ofDecimal negative digits (exponent?.getD 0 - fraction.length))), rest)

def constants : List (List Char × Value) :=
  [("null".toList, .null), ("true".toList, .bool true), ("false".toList, .bool false),
    ("NaN".toList, .float .nan), ("Infinity".toList, .float (.infinite false)),
    ("-Infinity".toList, .float (.infinite true))]

def readScalar (text : List Char) : Except Fault (Value × List Char) :=
  match constants.find? fun (spelling, _) => spelling.isPrefixOf text with
  | some (spelling, value) => .ok (value, text.drop spelling.length)
  | none =>
    let (negative, digits) := match text with
      | '-' :: rest => (true, rest)
      | _ => (false, text)
    match readNumber? negative digits with
    | some (.ok value, rest) => .ok (value, rest)
    | some (.error fault, _) => .error fault
    | none => fault .expectingValue text

mutual

def readValue : Nat → List Char → Except Fault (Value × List Char)
  | 0, text => fault .expectingValue text
  | fuel + 1, text =>
    match text with
    | '"' :: rest => do
      let (s, after) ← readText rest
      return (.string s, after)
    | '\x7b' :: rest =>
      match skipSpaces rest with
      | '\x7d' :: after => .ok (.object [], after)
      | members => do
        let (read, after) ← readMembers fuel members
        return (.object (distinctMembers read), after)
    | '[' :: rest =>
      match skipSpaces rest with
      | ']' :: after => .ok (.array [], after)
      | items => do
        let (read, after) ← readItems fuel items
        return (.array read, after)
    | _ => readScalar text

def readItems : Nat → List Char → Except Fault (List Value × List Char)
  | 0, text => fault .expectingValue text
  | fuel + 1, text => do
    let (item, rest) ← readValue fuel text
    match skipSpaces rest with
    | ']' :: after => return ([item], after)
    | ',' :: more =>
      let (items, after) ← readItems fuel (skipSpaces more)
      return (item :: items, after)
    | rest => fault .expectingComma rest

def readMembers : Nat → List Char → Except Fault (List (String × Value) × List Char)
  | 0, text => fault .expectingName text
  | fuel + 1, text =>
    match text with
    | '"' :: rest => do
      let (key, rest) ← readText rest
      match skipSpaces rest with
      | ':' :: rest =>
        let (value, rest) ← readValue fuel (skipSpaces rest)
        match skipSpaces rest with
        | '\x7d' :: after => return ([(key, value)], after)
        | ',' :: more =>
          let (members, after) ← readMembers fuel (skipSpaces more)
          return ((key, value) :: members, after)
        | rest => fault .expectingComma rest
      | rest => fault .expectingColon rest
    | _ => fault .expectingName text

end

/-- The value of a whole text, or its first fault. -/
def readWhole (text : List Char) : Except Fault Value := do
  if text.head? = some (Char.ofNat 0xFEFF) then fault .byteOrderMark text
  else
    let (value, rest) ← readValue (text.length + 1) (skipSpaces text)
    match skipSpaces rest with
    | [] => return value
    | rest => fault .extraData rest

/-- The wording of a problem at a place of a text. -/
def faultMessage (text : List Char) (problem : Problem) (remaining : Nat) : String :=
  let offset := text.length - remaining
  let (line, column) := Text.lineAndColumn text offset
  problem.message ++ ": line " ++ toString line ++ " column " ++ toString column ++
    " (char " ++ toString offset ++ ")"

def read (text : String) : Except Failure Value :=
  match readWhole text.toList with
  | .ok value => .ok value
  | .error (.problem problem remaining) =>
    .error (.malformedJson (faultMessage text.toList problem remaining))
  | .error (.number failure) => .error failure

end SchemaClasses.Json
