import SchemaClasses.Text.CodePoints

/-!
# Digits

Every script with decimal digits has them in a run of ten, zero first. Superscripts, subscripts
and enclosed figures are digits as well, but do not write numbers in base ten. The classes are
those of Unicode 14. Hexadecimal digits are ASCII characters.

## Main definitions

* `Text.decimalValue?`: the value of a decimal digit of any script.
* `Text.isDigit`: whether a character is a digit, decimal or not.
* `Text.hexDigits`: a number in a fixed count of hexadecimal digits.
* `Text.hexNumber?`: the number that hexadecimal digits write.
-/

namespace SchemaClasses.Text

/-! ## Digits of all scripts -/

/-- The code points of the digit zero in each script. -/
def decimalZeros : List Nat := [
  48, 1632, 1776, 1984, 2406, 2534, 2662, 2790, 2918, 3046, 3174, 3302, 3430, 3558, 3664, 3792,
  3872, 4160, 4240, 6112, 6160, 6470, 6608, 6784, 6800, 6992, 7088, 7232, 7248, 42528, 43216,
  43264, 43472, 43504, 43600, 44016, 65296, 66720, 68912, 69734, 69872, 69942, 70096, 70384, 70736,
  70864, 71248, 71360, 71472, 71904, 72016, 72784, 73040, 73120, 92768, 92864, 93008, 120782,
  120792, 120802, 120812, 120822, 123200, 123632, 125264, 130032]

/-- Digits that do not take part in decimal numbers, such as superscripts. -/
def otherDigits : CodePoints := [
  (178, 179), (185, 185), (4969, 4977), (6618, 6618), (8304, 8304), (8308, 8313), (8320, 8329),
  (9312, 9320), (9332, 9340), (9352, 9360), (9450, 9450), (9461, 9469), (9471, 9471),
  (10102, 10110), (10112, 10120), (10122, 10130), (68160, 68163), (69216, 69224), (69714, 69722),
  (127232, 127242)]

def decimalValue? (c : Char) : Option Nat :=
  (decimalZeros.find? fun first => first ≤ c.toNat && c.toNat ≤ first + 9).map (c.toNat - ·)

def isDigit (c : Char) : Bool := (decimalValue? c).isSome || otherDigits.contains c

/-! ## Hexadecimal digits -/

/-- The digits of `n` in base sixteen, the last `width` of them, in lower case. -/
def hexDigits : Nat → Nat → List Char
  | 0, _ => []
  | width + 1, n => hexDigits width (n / 16) ++ [(n % 16).digitChar]

def hexValue? (c : Char) : Option Nat :=
  if '0' ≤ c ∧ c ≤ '9' then some (c.toNat - '0'.toNat)
  else if 'a' ≤ c ∧ c ≤ 'f' then some (c.toNat - 'a'.toNat + 10)
  else if 'A' ≤ c ∧ c ≤ 'F' then some (c.toNat - 'A'.toNat + 10)
  else none

def hexNumber? (digits : List Char) : Option Nat :=
  digits.foldlM (fun number c => (hexValue? c).map (16 * number + ·)) 0

end SchemaClasses.Text
