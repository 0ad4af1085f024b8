import Mathlib.Algebra.Order.Field.Power
import Mathlib.Data.Rat.Cast.Order
import Mathlib.Tactic.FieldSimp
import Mathlib.Tactic.Positivity
import SchemaClasses.Number.Decimal

/-!
# The range of numbers

A finite floating-point number has a mantissa of at most 53 bits and an exponent that is bounded on
both sides. An integer that such a number is equal to is therefore far from having too many digits
to be written, and so is an integer that has been read from digits, whose count is limited.

## Main definitions

* `Binary64.IsInRange`: the mantissa and the exponent of a number are within their bounds.

## Main statements

* `Binary64.isInRange_ofDecimal`: rounding a decimal keeps within the bounds.
* `Binary64.isWritableInteger_of_toInt?`: an integer in floating-point form can be written.
* `isWritableInteger_of_readDigits`: so can an integer that is read from digits.
-/

namespace SchemaClasses

namespace Binary64

/-- The mantissa of a finite number has at most 53 bits, and its exponent is within the bounds. -/
def IsInRange : Binary64 → Prop
  | .finite _ mantissa exponent =>
    mantissa < powerOfTwo 53 ∧ minExponent ≤ exponent ∧ exponent ≤ maxExponent
  | _ => True

theorem powerOfTwo_pos (n : Nat) : 0 < powerOfTwo n := Nat.pow_pos two_pos

theorem powerOfTwo_add (m n : Nat) : powerOfTwo (m + n) = powerOfTwo m * powerOfTwo n :=
  Nat.pow_add 2 m n

theorem powerOfTwo_le {m n : Nat} (h : m ≤ n) : powerOfTwo m ≤ powerOfTwo n :=
  Nat.pow_le_pow_right two_pos h

theorem powerOfTen_le {m n : Nat} (h : m ≤ n) : powerOfTen m ≤ powerOfTen n :=
  Nat.pow_le_pow_right (by decide) h

theorem powerOfTen_succ (n : Nat) : powerOfTen (n + 1) = powerOfTen n * 10 :=
  Nat.pow_succ 10 n

theorem powerOfTwo_le_powerOfTen (n : Nat) : powerOfTwo n ≤ powerOfTen n :=
  Nat.pow_le_pow_left (by decide) n

/-! ## Rounding -/

theorem scaled_pos (num : Nat) {den : Nat} (pos : 0 < den) (exponent : Int) :
    0 < (scaled num den exponent).2 := by
  unfold scaled
  split
  · exact Nat.mul_pos pos (powerOfTwo_pos _)
  · exact pos

/-- Scaling divides by a power of two. -/
theorem scaled_lt_iff (num den k : Nat) (exponent : Int) :
    (scaled num den exponent).1 < (scaled num den exponent).2 * 2 ^ k ↔
      (num : ℚ) < den * 2 ^ (exponent + k) := by
  rw [zpow_add₀ two_ne_zero, zpow_natCast]
  by_cases negative : exponent < 0
  · obtain ⟨n, rfl⟩ := Int.exists_eq_neg_ofNat negative.le
    have shown : scaled num den (-n) = (num * 2 ^ n, den) := by
      rw [scaled, if_neg (by omega), Int.neg_neg, Int.toNat_natCast]
      rfl
    have power : (0 : ℚ) < 2 ^ n := by positivity
    have scale : (num : ℚ) < den * (2 ^ (-(n : Int)) * 2 ^ k) ↔
        (num : ℚ) * 2 ^ n < den * 2 ^ k := by
      rw [zpow_neg, zpow_natCast, ← mul_lt_mul_iff_of_pos_right power]
      field_simp
    rw [shown, scale]
    norm_cast
  · obtain ⟨n, rfl⟩ := Int.eq_ofNat_of_zero_le (Int.not_lt.1 negative)
    have shown : scaled num den n = (num, den * 2 ^ n) := by
      rw [scaled, if_pos (by omega), Int.toNat_natCast]
      rfl
    rw [shown, zpow_natCast, ← mul_assoc]
    norm_cast

theorem lt_of_exponent_le {num den : Nat} {low high : Int}
    (h : (num : ℚ) < den * 2 ^ low) (le : low ≤ high) : (num : ℚ) < den * 2 ^ high :=
  h.trans_le (mul_le_mul_of_nonneg_left (zpow_le_zpow_right₀ one_le_two le) (Nat.cast_nonneg den))

/-- A quotient has at most one bit more than the difference of the lengths of its parts. -/
theorem lt_of_log2 (num : Nat) {den : Nat} (pos : 0 < den) :
    (num : ℚ) < den * 2 ^ ((num.log2 : Int) - den.log2 + 1) := by
  have above : (num : ℚ) < 2 ^ (num.log2 + 1) := by exact_mod_cast num.lt_log2_self
  have below : (2 : ℚ) ^ den.log2 ≤ den := by exact_mod_cast Nat.log2_self_le pos.ne'
  have split : ((num.log2 + 1 : Nat) : Int) = den.log2 + ((num.log2 : Int) - den.log2 + 1) := by
    omega
  calc (num : ℚ) < 2 ^ (num.log2 + 1) := above
    _ = 2 ^ den.log2 * 2 ^ ((num.log2 : Int) - den.log2 + 1) := by
      rw [← zpow_natCast, split, zpow_add₀ two_ne_zero, zpow_natCast]
    _ ≤ den * 2 ^ ((num.log2 : Int) - den.log2 + 1) :=
      mul_le_mul_of_nonneg_right below (by positivity)

/-- At the exponent of a quotient, its whole part has at most 53 bits. -/
theorem lt_of_quotientExponent {num den : Nat} (pos : 0 < den) :
    (num : ℚ) < den * 2 ^ (quotientExponent num den + 53) := by
  have longest := lt_of_log2 num pos
  unfold quotientExponent
  extract_lets guess
  have scale := scaled_lt_iff num den 53 guess
  have pos' := scaled_pos num pos guess
  split
  rename_i n d eq
  rw [eq] at scale pos'
  split
  · exact lt_of_exponent_le longest (by omega)
  · rename_i short
    have quotient : n < d * 2 ^ 53 := by
      rw [Nat.mul_comm]
      exact (Nat.div_lt_iff_lt_mul pos').1 (Nat.not_le.1 short)
    exact lt_of_exponent_le (scale.1 quotient) (by omega)

theorem minExponent_le_quotientExponent (num den : Nat) :
    minExponent ≤ quotientExponent num den := by
  unfold quotientExponent
  extract_lets guess
  split
  exact Int.le_max_left _ _

/-- A quotient below a whole number is rounded to that number at most. -/
theorem roundQuotient_le {num den bound : Nat} (h : num < den * bound) :
    roundQuotient num den ≤ bound := by
  have below : num / den < bound := Nat.div_lt_of_lt_mul h
  unfold roundQuotient
  extract_lets
  split
  · omega
  · split
    · omega
    · omega

theorem isInRange_zero (negative : Bool) : (zero negative).IsInRange := by
  simp only [zero, IsInRange, minExponent, maxExponent]
  exact ⟨by decide, by decide, by decide⟩

/-- A mantissa of 54 bits is carried into the next exponent. -/
theorem isInRange_ofMantissa (negative : Bool) {mantissa : Nat} {exponent : Int}
    (h : mantissa ≤ powerOfTwo 53) (low : minExponent ≤ exponent) :
    (ofMantissa negative mantissa exponent).IsInRange := by
  have carried : powerOfTwo 52 < powerOfTwo 53 := Nat.pow_lt_pow_right one_lt_two (by decide)
  unfold ofMantissa
  split
  rename_i m e eq
  have bounds : m < powerOfTwo 53 ∧ minExponent ≤ e := by
    split at eq
    · cases eq
      exact ⟨carried, by omega⟩
    · cases eq
      exact ⟨by omega, low⟩
  split
  · trivial
  · split
    · exact isInRange_zero negative
    · exact ⟨bounds.1, bounds.2, by omega⟩

/-- A quotient is rounded to a number within the range. -/
theorem isInRange_ofRatio (negative : Bool) (num : Nat) {den : Nat} (pos : 0 < den) :
    (ofRatio negative num den).IsInRange := by
  unfold ofRatio
  split
  · exact isInRange_zero negative
  · extract_lets exponent
    have short := (scaled_lt_iff num den 53 exponent).2 (lt_of_quotientExponent pos)
    split
    rename_i n d eq
    rw [eq] at short
    exact isInRange_ofMantissa negative (roundQuotient_le short)
      (minExponent_le_quotientExponent num den)

/-- Rounding a decimal gives a number within the bounds. -/
theorem isInRange_ofDecimal (negative : Bool) (digits : Nat) (exponent : Int) :
    (ofDecimal negative digits exponent).IsInRange := by
  unfold ofDecimal
  extract_lets width
  split
  · exact isInRange_zero negative
  · split
    · trivial
    · split
      · exact isInRange_zero negative
      · split
        · exact isInRange_ofRatio negative _ one_pos
        · exact isInRange_ofRatio negative _ (Nat.pow_pos (by decide))

/-! ## Integers -/

/-- The integer that a number within the bounds is equal to has at most 1024 bits. -/
theorem natAbs_lt_of_toInt? {number : Binary64} {n : Int} (h : number.IsInRange)
    (whole : number.toInt? = some n) : n.natAbs < powerOfTwo 1024 := by
  cases number with
  | finite negative mantissa exponent =>
    obtain ⟨short, -, high⟩ := h
    have signed (magnitude : Nat) :
        (if negative then -(magnitude : Int) else magnitude).natAbs = magnitude := by
      split <;> simp
    simp only [toInt?, Option.map_eq_some_iff, Option.bind_eq_bind,
      Option.bind_eq_some_iff] at whole
    obtain ⟨_, ⟨magnitude, whole, last⟩, rfl⟩ := whole
    cases last
    rw [signed]
    split at whole
    · cases whole
      have power : powerOfTwo exponent.toNat ≤ powerOfTwo 971 :=
        powerOfTwo_le (by unfold maxExponent at high; omega)
      calc mantissa * powerOfTwo exponent.toNat
          < powerOfTwo 53 * powerOfTwo 971 :=
            Nat.mul_lt_mul_of_lt_of_le short power (powerOfTwo_pos 971)
        _ = powerOfTwo 1024 := (powerOfTwo_add 53 971).symm
    · split at whole
      · cases whole
        calc mantissa / powerOfTwo (-exponent).toNat
            ≤ mantissa := Nat.div_le_self _ _
          _ < powerOfTwo 53 := short
          _ ≤ powerOfTwo 1024 := powerOfTwo_le (by decide)
      · cases whole
  | infinite negative => cases whole
  | nan => cases whole

theorem isWritableInteger_of_toInt? {number : Binary64} {n : Int} (h : number.IsInRange)
    (whole : number.toInt? = some n) : isWritableInteger n := by
  have limit : powerOfTwo 1024 ≤ powerOfTen maxIntegerDigits :=
    (powerOfTwo_le_powerOfTen 1024).trans (powerOfTen_le (by decide))
  unfold isWritableInteger
  exact decide_eq_true ((natAbs_lt_of_toInt? h whole).trans_le limit)

end Binary64

/-! ## Digits -/

theorem digitsValue_append (digits : List Char) (last : Char) :
    digitsValue (digits ++ [last]) = 10 * digitsValue digits + (last.toNat - '0'.toNat) := by
  simp [digitsValue]

theorem digitsValue_lt {digits : List Char} (h : ∀ c ∈ digits, c.isDigit) :
    digitsValue digits < Binary64.powerOfTen digits.length := by
  induction digits using List.reverseRecOn with
  | nil => decide
  | append_singleton digits last ih =>
    have before := ih fun c mem => h c (List.mem_append_left _ mem)
    have digit : last.toNat - '0'.toNat < 10 := by
      have isDigit := h last (by simp)
      simp only [Char.isDigit, Bool.and_eq_true, decide_eq_true_eq] at isDigit
      have high : last.toNat ≤ 57 := by simpa [UInt32.le_iff_toNat_le] using isDigit.2
      change last.toNat - 48 < 10
      omega
    rw [digitsValue_append, List.length_append, List.length_singleton, Binary64.powerOfTen_succ]
    omega

theorem isWritableInteger_of_readDigits {digits : List Char} {n : Nat}
    (h : ∀ c ∈ digits, c.isDigit) (read : readDigits digits = .ok n) : isWritableInteger n := by
  unfold readDigits at read
  split at read
  · cases read
  · rename_i short
    cases read
    unfold isWritableInteger
    have limit := Binary64.powerOfTen_le (Nat.not_lt.1 short)
    exact decide_eq_true ((digitsValue_lt h).trans_le limit)

theorem isWritableInteger_neg (n : Int) : isWritableInteger (-n) = isWritableInteger n := by
  simp [isWritableInteger]

end SchemaClasses
