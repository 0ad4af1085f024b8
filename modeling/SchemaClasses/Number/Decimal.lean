import SchemaClasses.Failure
import SchemaClasses.Number.Binary64
import SchemaClasses.Text.CodePoints
import SchemaClasses.Text.Digit

/-!
# Numbers in decimal notation

The reading of integers in a base and of floating-point numbers in decimal notation. Integers of
more than 4300 decimal digits are neither read nor written.

## Main definitions

* `writeInteger`: the digits of an integer.
* `readDigits`: the number that ASCII digits write.
* `readInteger`: a whole text as an integer, with blanks around it and a sign before it.
* `readFloat`: a whole text as a floating-point number.
-/

namespace SchemaClasses

def maxIntegerDigits : Nat := 4300

def isWritableInteger (n : Int) : Bool := n.natAbs < Binary64.powerOfTen maxIntegerDigits

def writeInteger (n : Int) : Except Failure String :=
  if isWritableInteger n then .ok (toString n) else .error (.invalidValue .unwritableInteger)

/-- The number that a list of ASCII digits writes in base ten. -/
def digitsValue (digits : List Char) : Nat :=
  digits.foldl (fun number c => 10 * number + (c.toNat - '0'.toNat)) 0

/-- The number that ASCII digits write, within the limit on their count. -/
def readDigits (digits : List Char) : Except Failure Nat :=
  if maxIntegerDigits < digits.length then
    .error (.invalidValue (.tooManyDigits digits.length))
  else .ok (digitsValue digits)

/-- The value of a digit in a base: a decimal digit of any script, or an ASCII letter. -/
def digitValue? (base : Nat) (c : Char) : Option Nat :=
  let value? :=
    match Text.decimalValue? c with
    | some value => some value
    | none =>
      if 'a' ≤ c ∧ c ≤ 'z' then some (c.toNat - 'a'.toNat + 10)
      else if 'A' ≤ c ∧ c ≤ 'Z' then some (c.toNat - 'A'.toNat + 10)
      else none
  value?.filter (· < base)

/-- The values of digits, single underscores being allowed between them. -/
def digitValues? (base : Nat) : List Char → Option (List Nat)
  | [] => none
  | [c] => (digitValue? base c).map ([·])
  | c :: '_' :: rest => do return (← digitValue? base c) :: (← digitValues? base rest)
  | c :: rest => do return (← digitValue? base c) :: (← digitValues? base rest)

def takeSign : List Char → Bool × List Char
  | '-' :: rest => (true, rest)
  | '+' :: rest => (false, rest)
  | rest => (false, rest)

/-- The digits after the marker of a base, `0b`, `0o` or `0x`, which may be left out. -/
def dropBaseMarker (base : Nat) (digits : List Char) : List Char :=
  let dropUnderscore : List Char → List Char
    | '_' :: rest => rest
    | rest => rest
  match digits with
  | '0' :: c :: rest =>
    if (base = 2 && (c = 'b' || c = 'B')) || (base = 8 && (c = 'o' || c = 'O')) ||
        (base = 16 && (c = 'x' || c = 'X')) then dropUnderscore rest
    else digits
  | _ => digits

/-- An integer in a base, with blanks around it, a sign and underscores between its digits. -/
def readInteger (base : Nat) (text : List Char) : Except Failure Int :=
  let (negative, digits) := takeSign (Text.trimBlanks text)
  match digitValues? base (dropBaseMarker base digits) with
  | none => .error (.invalidValue (.notInteger (String.ofList text) base))
  | some values =>
    if base = 10 ∧ maxIntegerDigits < values.length then
      .error (.invalidValue (.tooManyDigits values.length))
    else
      let magnitude := values.foldl (fun number value => base * number + value) 0
      .ok (if negative then -(magnitude : Int) else magnitude)

def readIndex (text : List Char) : Except Failure Nat := (readInteger 10 text).map Int.toNat

/-- Removes single underscores between digits; another underscore makes the text no number. -/
def dropUnderscores? : List Char → Option (List Char)
  | [] => some []
  | ['_'] => none
  | c :: '_' :: d :: rest =>
    if c.isDigit && d.isDigit then (dropUnderscores? (d :: rest)).map (c :: ·) else none
  | c :: rest => if c = '_' then none else (dropUnderscores? rest).map (c :: ·)

/-- A decimal numeral: digits with an optional fraction and an optional exponent, at least one digit
standing before the exponent. -/
def decimalNumeral? (negative : Bool) (text : List Char) : Option Binary64 :=
  let (whole, rest) := (text.takeWhile Char.isDigit, text.dropWhile Char.isDigit)
  let (fraction, rest) := match rest with
    | '.' :: r => (r.takeWhile Char.isDigit, r.dropWhile Char.isDigit)
    | r => ([], r)
  let digits := whole ++ fraction
  let number (exponent : Int) :=
    Binary64.ofDecimal negative (digitsValue digits) (exponent - fraction.length)
  if digits.isEmpty then none
  else match rest with
    | [] => some (number 0)
    | c :: r =>
      let (below, shown) := takeSign r
      if (c = 'e' || c = 'E') && !shown.isEmpty && shown.all Char.isDigit then
        let size : Int := digitsValue shown
        some (number (if below then -size else size))
      else none

/-- A floating-point number, with blanks around it, in decimal notation or by name. -/
def readFloat (text : List Char) : Except Failure Binary64 :=
  let ascii := (Text.trimBlanks text).map fun c =>
    match Text.decimalValue? c with
    | some value => value.digitChar
    | none => c
  let (negative, magnitude) := takeSign ascii
  let name := String.ofList (magnitude.map Char.toLower)
  if name = "inf" ∨ name = "infinity" then .ok (.infinite negative)
  else if name = "nan" then .ok .nan
  else match (dropUnderscores? magnitude).bind (decimalNumeral? negative) with
    | some number => .ok number
    | none => .error (.invalidValue (.notFloat (String.ofList text)))

end SchemaClasses
