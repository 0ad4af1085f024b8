import SchemaClasses.Number.Binary64

/-!
# Shortest decimals

The text of a floating-point number has the fewest digits that read back as the same number, and
of those the ones nearest to it. The search is exact: a decimal grid of 1, 2, … 17 digits is tried
in turn, and on each grid only the two neighbours of the number can qualify.

## Main definitions

* `Binary64.shortest`: digits and power of ten of the shortest decimal.
* `Binary64.text`: the written form, positional from `0.0001` up to below `10 ^ 16`.
-/

namespace SchemaClasses.Binary64

/-- `mantissa * 2 ^ exponent` and the ends of the interval of reals that round to it, in units in
which `10 ^ power` is a whole number too: lower end, number, upper end, and `10 ^ power`. -/
def grid (mantissa : Nat) (exponent power : Int) : Nat × Nat × Nat × Nat :=
  let binary := powerOfTwo (exponent - 2).toNat * powerOfTen (-power).toNat
  let decimal := powerOfTen power.toNat * powerOfTwo (2 - exponent).toNat
  let gapBelow := if mantissa = powerOfTwo 52 ∧ minExponent < exponent then 1 else 2
  ((4 * mantissa - gapBelow) * binary, 4 * mantissa * binary, (4 * mantissa + 2) * binary, decimal)

/-- Whether a point of the grid rounds to the number; the ends do when the mantissa is even. -/
def covers (mantissa lower upper point : Nat) : Bool :=
  if mantissa % 2 = 0 then lower ≤ point && point ≤ upper else lower < point && point < upper

/-- The point of the grid of `10 ^ power` nearest to the number among those that round to it. -/
def neighbour? (mantissa : Nat) (exponent power : Int) : Option Nat :=
  let (lower, value, upper, unit) := grid mantissa exponent power
  let below := value / unit
  let down := covers mantissa lower upper (below * unit)
  let up := covers mantissa lower upper ((below + 1) * unit)
  let excess := 2 * (value % unit)
  let preferUp := unit < excess || (excess = unit && below % 2 = 1)
  if down && up then some (if preferUp then below + 1 else below)
  else if down then some below
  else if up then some (below + 1)
  else none

/-- The greatest `k` with `10 ^ k ≤ mantissa * 2 ^ exponent`, for a positive mantissa. -/
def decimalExponent (mantissa : Nat) (exponent : Int) : Int :=
  let estimate := ((mantissa.log2 : Int) + exponent) * 30103 / 100000
  let reaches (k : Int) : Bool :=
    let (_, value, _, unit) := grid mantissa exponent k
    unit ≤ value
  if reaches (estimate + 1) then estimate + 1
  else if reaches estimate then estimate
  else estimate - 1

def trimZeros : Nat → Nat → Int → Nat × Int
  | 0, digits, power => (digits, power)
  | steps + 1, digits, power =>
    if digits % 10 = 0 ∧ digits ≠ 0 then trimZeros steps (digits / 10) (power + 1)
    else (digits, power)

/-- The shortest decimal `digits * 10 ^ power` that reads back as `mantissa * 2 ^ exponent`. -/
def shortest (mantissa : Nat) (exponent : Int) : Nat × Int :=
  let leading := decimalExponent mantissa exponent
  let found := (List.range 17).findSome? fun (extra : Nat) =>
    (neighbour? mantissa exponent (leading - extra)).map fun digits => (digits, leading - extra)
  let (digits, power) := found.getD (0, 0)
  trimZeros 18 digits power

/-- Digits with a point after the first `point` of them; a number without a fraction ends in
`.0`. -/
def positional (digits : List Char) (point : Int) : List Char :=
  if point ≤ 0 then '0' :: '.' :: (List.replicate (-point).toNat '0' ++ digits)
  else if digits.length ≤ point then
    digits ++ List.replicate (point.toNat - digits.length) '0' ++ ['.', '0']
  else digits.take point.toNat ++ '.' :: digits.drop point.toNat

/-- Digits with a point after the first one and an exponent of at least two digits. -/
def scientific (digits : List Char) (point : Int) : List Char :=
  let exponent := point - 1
  let shown := Nat.toDigits 10 exponent.natAbs
  let padded := if shown.length < 2 then '0' :: shown else shown
  let fraction := if digits.length ≤ 1 then [] else '.' :: digits.drop 1
  digits.take 1 ++ fraction ++ 'e' :: (if exponent < 0 then '-' else '+') :: padded

/-- The written form of a positive finite number: positional for decimal exponents from -4 to 15,
scientific outside. -/
def magnitudeText (mantissa : Nat) (exponent : Int) : List Char :=
  let (digits, power) := shortest mantissa exponent
  let shown := Nat.toDigits 10 digits
  let point := power + shown.length
  if -4 < point ∧ point ≤ 16 then positional shown point else scientific shown point

/-- The written form of a number, with the given words for infinity and for no number. -/
def textWith (infinity notANumber : String) : Binary64 → String
  | .finite negative mantissa exponent =>
    let body := if mantissa = 0 then ['0', '.', '0'] else magnitudeText mantissa exponent
    String.ofList (if negative then '-' :: body else body)
  | .infinite negative => if negative then "-" ++ infinity else infinity
  | .nan => notANumber

def text : Binary64 → String := textWith "inf" "nan"

end SchemaClasses.Binary64
