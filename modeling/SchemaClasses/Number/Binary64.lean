/-!
# Binary floating-point numbers, exactly

A 64-bit binary floating-point number is kept as the exact value `± mantissa * 2 ^ exponent`, so
that rounding, comparison and printing are whole-number arithmetic. Every operation rounds to the
nearest representable number, a half going to the even mantissa.

## Main definitions

* `Binary64`: finite numbers, the two infinities and the number that is none.
* `Binary64.ofRatio`, `Binary64.ofDecimal`: the nearest number to a quotient or a decimal.
* `Binary64.ofInt?`: the nearest number to an integer, if it is finite.
* `Binary64.toInt?`: the integer that a number is equal to, if any.
-/

namespace SchemaClasses

/-- A 64-bit binary floating-point number. Finite ones are `± mantissa * 2 ^ exponent` with
`mantissa < 2 ^ 53` and `-1074 ≤ exponent ≤ 971`, the exponent being as small as it can be. -/
inductive Binary64 where
  | finite (negative : Bool) (mantissa : Nat) (exponent : Int)
  | infinite (negative : Bool)
  | nan
deriving DecidableEq

namespace Binary64

def powerOfTwo (n : Nat) : Nat := Nat.pow 2 n

def powerOfTen (n : Nat) : Nat := Nat.pow 10 n

/-- The whole number nearest to `num / den`; a half goes to the even neighbour. -/
def roundQuotient (num den : Nat) : Nat :=
  let below := num / den
  let excess := 2 * (num % den)
  if excess < den then below
  else if den < excess then below + 1
  else below + below % 2

def minExponent : Int := -1074

def maxExponent : Int := 971

def scaled (num den : Nat) (exponent : Int) : Nat × Nat :=
  if 0 ≤ exponent then (num, den * powerOfTwo exponent.toNat)
  else (num * powerOfTwo (-exponent).toNat, den)

/-- The exponent at which the mantissa of `num / den` has 53 bits, or the smallest exponent. -/
def quotientExponent (num den : Nat) : Int :=
  let guess := (num.log2 : Int) - den.log2 - 53
  let (n, d) := scaled num den guess
  max minExponent (if powerOfTwo 53 ≤ n / d then guess + 1 else guess)

def zero (negative : Bool) : Binary64 := .finite negative 0 minExponent

/-- A rounded mantissa at an exponent, carried into the next exponent when it has 54 bits, and
infinite beyond the largest finite number. -/
def ofMantissa (negative : Bool) (mantissa : Nat) (exponent : Int) : Binary64 :=
  let (m, e) :=
    if mantissa = powerOfTwo 53 then (powerOfTwo 52, exponent + 1) else (mantissa, exponent)
  if maxExponent < e then .infinite negative
  else if m = 0 then zero negative
  else .finite negative m e

/-- The number nearest to `± num / den`, for a positive `den`. -/
def ofRatio (negative : Bool) (num den : Nat) : Binary64 :=
  if num = 0 then zero negative
  else
    let exponent := quotientExponent num den
    let (n, d) := scaled num den exponent
    ofMantissa negative (roundQuotient n d) exponent

/-- The number nearest to `± digits * 10 ^ exponent`. Exponents that are far out of range are
answered without computing the power. -/
def ofDecimal (negative : Bool) (digits : Nat) (exponent : Int) : Binary64 :=
  let width := (Nat.toDigits 10 digits).length
  if digits = 0 then zero negative
  else if 310 < width + exponent then .infinite negative
  else if width + exponent < -330 then zero negative
  else if 0 ≤ exponent then ofRatio negative (digits * powerOfTen exponent.toNat) 1
  else ofRatio negative digits (powerOfTen (-exponent).toNat)

def ofInt? (n : Int) : Option Binary64 :=
  match ofRatio (n < 0) n.natAbs 1 with
  | .finite s m e => some (.finite s m e)
  | _ => none

def toInt? : Binary64 → Option Int
  | .finite negative mantissa exponent =>
    let magnitude? :=
      if 0 ≤ exponent then some (mantissa * powerOfTwo exponent.toNat)
      else
        let unit := powerOfTwo (-exponent).toNat
        if mantissa % unit = 0 then some (mantissa / unit) else none
    magnitude?.map fun magnitude => if negative then -(magnitude : Int) else magnitude
  | _ => none

def neg : Binary64 → Binary64
  | .finite s m e => .finite (!s) m e
  | .infinite s => .infinite (!s)
  | .nan => .nan

/-- The sum of two finite numbers, rounded; the other cases follow the signs of the infinities. -/
def add : Binary64 → Binary64 → Binary64
  | .finite s m e, .finite t n f =>
    let common := min e f
    let left : Int := (if s then -1 else 1) * (m * powerOfTwo (e - common).toNat : Nat)
    let right : Int := (if t then -1 else 1) * (n * powerOfTwo (f - common).toNat : Nat)
    let total := left + right
    let negative := if total = 0 then s && t else total < 0
    if 0 ≤ common then ofRatio negative (total.natAbs * powerOfTwo common.toNat) 1
    else ofRatio negative total.natAbs (powerOfTwo (-common).toNat)
  | .infinite s, .infinite t => if s = t then .infinite s else .nan
  | .infinite s, .finite .. => .infinite s
  | .finite .., .infinite t => .infinite t
  | _, _ => .nan

def mul : Binary64 → Binary64 → Binary64
  | .finite s m e, .finite t n f =>
    if 0 ≤ e + f then ofRatio (s != t) (m * n * powerOfTwo (e + f).toNat) 1
    else ofRatio (s != t) (m * n) (powerOfTwo (-(e + f)).toNat)
  | .infinite s, .infinite t => .infinite (s != t)
  | .infinite s, .finite t m _ => if m = 0 then .nan else .infinite (s != t)
  | .finite s m _, .infinite t => if m = 0 then .nan else .infinite (s != t)
  | _, _ => .nan

end Binary64

end SchemaClasses
