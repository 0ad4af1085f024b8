import Mathlib.Tactic.LinearCombination
import SchemaClasses.Number.Shortest
import SchemaClasses.Proofs.Number.Index
import SchemaClasses.Proofs.Number.Rounding

/-!
# Written numbers are read again

The shortest decimal of a number lies in its interval. Among the decimals of up to 17 digits there
is one, since at 17 digits they lie closer together than the ends of the interval. What lies in the
interval is rounded to the number, whether it is written with a point or with an exponent.

## Main statements

* `Binary64.roundsTo_shortest`: the shortest decimal of a number lies in its interval.
* `Binary64.ofDecimal_of_roundsTo`: a decimal in the interval of a number is rounded to it.
* `Binary64.decimalNumeral?_magnitudeText`: the written form of a number is read as the number.
-/

namespace SchemaClasses

namespace Binary64

/-! ## The grid -/

section

variable {m : Nat} {e : Int}

theorem cast_powerOfTen (n : Nat) : (powerOfTen n : ℚ) = 10 ^ n := Nat.cast_pow 10 n

theorem pow_toNat {b : ℚ} (nonzero : b ≠ 0) (k : Int) :
    b ^ k.toNat = b ^ k * b ^ (-k).toNat := by
  rw [← zpow_natCast, ← zpow_natCast, ← zpow_add₀ nonzero]
  congr 1
  omega

/-- The ends of an interval, the number and a power of ten in a common unit. -/
theorem exists_grid (pos : 0 < m) (e p : Int) : ∃ unit : ℚ, 0 < unit ∧
    ((grid m e p).1 : ℚ) = (m - gapBelow m e) * 2 ^ e * unit ∧
    ((grid m e p).2.1 : ℚ) = m * 2 ^ e * unit ∧
    ((grid m e p).2.2.1 : ℚ) = (m + 1 / 2) * 2 ^ e * unit ∧
    ((grid m e p).2.2.2 : ℚ) = 10 ^ p * unit := by
  have quarter : (4 : ℚ) * 2 ^ (e - 2).toNat = 2 ^ e * 2 ^ (2 - e).toNat := by
    rw [pow_toNat two_ne_zero, zpow_sub₀ two_ne_zero, Int.neg_sub, zpow_ofNat]
    ring
  have binary : (4 : ℚ) * (powerOfTwo (e - 2).toNat * powerOfTen (-p).toNat : Nat) =
      2 ^ e * (2 ^ (2 - e).toNat * 10 ^ (-p).toNat) := by
    rw [Nat.cast_mul, cast_powerOfTwo, cast_powerOfTen, ← mul_assoc, quarter, mul_assoc]
  have gap : ((4 * m - if m = powerOfTwo 52 ∧ minExponent < e then 1 else 2 : Nat) : ℚ) =
      4 * (m - gapBelow m e) := by
    change ((4 * m - if m = 2 ^ 52 ∧ minExponent < e then 1 else 2 : Nat) : ℚ) = _
    unfold gapBelow
    split
    · rw [Nat.cast_sub (by omega)]
      push_cast
      ring
    · rw [Nat.cast_sub (by omega)]
      push_cast
      ring
  refine ⟨2 ^ (2 - e).toNat * 10 ^ (-p).toNat, by positivity, ?_, ?_, ?_, ?_⟩
  · dsimp only [grid]
    rw [Nat.cast_mul, gap]
    linear_combination (m - gapBelow m e) * binary
  · dsimp only [grid]
    rw [Nat.cast_mul, Nat.cast_mul]
    linear_combination m * binary
  · dsimp only [grid]
    rw [Nat.cast_mul, Nat.cast_add, Nat.cast_mul]
    push_cast at binary ⊢
    linear_combination (m + 1 / 2) * binary
  · dsimp only [grid]
    rw [Nat.cast_mul, cast_powerOfTen, cast_powerOfTwo, pow_toNat (by norm_num) p]
    ring

/-- A point of the grid is covered if it lies in the interval. -/
theorem covers_iff (pos : 0 < m) (e p : Int) (d : Nat) :
    covers m (grid m e p).1 (grid m e p).2.2.1 (d * (grid m e p).2.2.2) ↔
      RoundsTo (d * 10 ^ p) m e := by
  obtain ⟨unit, positive, lower, -, upper, power⟩ := exists_grid pos e p
  generalize (grid m e p).1 = low at *
  generalize (grid m e p).2.2.1 = high at *
  generalize (grid m e p).2.2.2 = ten at *
  obtain ⟨x, eq⟩ : ∃ x : ℚ, x = d * 10 ^ p / 2 ^ e := ⟨_, rfl⟩
  have scale : (0 : ℚ) < 2 ^ e * unit := by positivity
  have point : ((d * ten : Nat) : ℚ) = x * (2 ^ e * unit) := by
    rw [eq, Nat.cast_mul, power]
    field_simp
  rw [mul_assoc] at lower upper
  have below : low ≤ d * ten ↔ m - gapBelow m e ≤ x := by
    rw [← Nat.cast_le (α := ℚ), lower, point, mul_le_mul_iff_of_pos_right scale]
  have below' : low < d * ten ↔ m - gapBelow m e < x := by
    rw [← Nat.cast_lt (α := ℚ), lower, point, mul_lt_mul_iff_of_pos_right scale]
  have above : d * ten ≤ high ↔ x ≤ m + 1 / 2 := by
    rw [← Nat.cast_le (α := ℚ), upper, point, mul_le_mul_iff_of_pos_right scale]
  have above' : d * ten < high ↔ x < m + 1 / 2 := by
    rw [← Nat.cast_lt (α := ℚ), upper, point, mul_lt_mul_iff_of_pos_right scale]
  have rounds : RoundsTo (d * 10 ^ p) m e ↔ m - gapBelow m e ≤ x ∧ x ≤ m + 1 / 2 ∧
      (x = m - gapBelow m e ∨ x = m + 1 / 2 → m % 2 = 0) := by
    rw [eq]
    exact ⟨fun h => ⟨h.lower, h.upper, h.even⟩, fun h => ⟨h.1, h.2.1, h.2.2⟩⟩
  rw [rounds, covers]
  split
  · rename_i even
    simp only [Bool.and_eq_true, decide_eq_true_eq, below, above, even, implies_true, and_true]
  · rename_i odd
    simp only [Bool.and_eq_true, decide_eq_true_eq, below', above', odd, imp_false, not_or]
    constructor
    · exact fun ⟨low, high⟩ => ⟨low.le, high.le, low.ne', high.ne⟩
    · exact fun ⟨low, high, noLow, noHigh⟩ => ⟨lt_of_le_of_ne low (Ne.symm noLow),
        lt_of_le_of_ne high noHigh⟩

/-! ## The search -/

theorem roundsTo_of_lt {q : ℚ} (lower : m - gapBelow m e < q / 2 ^ e)
    (upper : q / 2 ^ e < m + 1 / 2) : RoundsTo q m e :=
  ⟨lower.le, upper.le, by rintro (same | same) <;> linarith⟩

/-- A point that is found lies in the interval. -/
theorem roundsTo_of_neighbour? (pos : 0 < m) {p : Int} {d : Nat}
    (found : neighbour? m e p = some d) : RoundsTo (d * 10 ^ p) m e := by
  have covered := covers_iff pos e p
  unfold neighbour? at found
  generalize grid m e p = g at covered found
  obtain ⟨lower, value, upper, unit⟩ := g
  dsimp only at covered found
  split at found
  · rename_i both
    obtain ⟨down, up⟩ := Bool.and_eq_true_iff.1 both
    cases found
    split
    · exact (covered _).1 up
    · exact (covered _).1 down
  · split at found
    · rename_i down
      cases found
      exact (covered _).1 down
    · split at found
      · rename_i up
        cases found
        exact (covered _).1 up
      · cases found

/-- Points of the grid on both sides of a number lie closer together than the ends of its interval
if there are 17 digits before the decimal point of the grid, so one of the two lies in it. -/
theorem roundsTo_or_succ (short : m < 2 ^ 53) {p : Int} {d : Nat}
    (fine : (10 : ℚ) ^ p * 10 ^ 16 ≤ m * 2 ^ e) (below : (d : ℚ) * 10 ^ p ≤ m * 2 ^ e)
    (above : (m : ℚ) * 2 ^ e < (d + 1 : Nat) * 10 ^ p) :
    RoundsTo (d * 10 ^ p) m e ∨ RoundsTo ((d + 1 : Nat) * 10 ^ p) m e := by
  have two : (0 : ℚ) < 2 ^ e := by positivity
  have outside (x : ℚ) (h : ¬RoundsTo x m e) : x ≤ (m - gapBelow m e) * 2 ^ e ∨
      (m + 1 / 2) * 2 ^ e ≤ x := by
    by_contra! inside
    exact h (roundsTo_of_lt ((lt_div_iff₀ two).2 inside.1) ((div_lt_iff₀ two).2 inside.2))
  -- If neither point lay in the interval, the whole of it would fit between them.
  by_contra! neither
  have gap := mul_pos (gapBelow_pos m e) two
  have low := (outside _ neither.1).resolve_right (by linarith)
  have high := (outside _ neither.2).resolve_left (by linarith)
  push_cast at high
  have wide : (1 / 2 + gapBelow m e) * 10 ^ 16 * 2 ^ e ≤ m * 2 ^ e := by linarith
  have wide := le_of_mul_le_mul_right wide two
  unfold gapBelow at wide
  split at wide
  · rename_i closer
    rw [closer.1] at wide
    norm_num at wide
  · have short : (m : ℚ) < 2 ^ 53 := by exact_mod_cast short
    norm_num at wide short
    linarith

/-- If there are 17 digits before the decimal point of the grid, one of its points next to the
number lies in the interval. -/
theorem isSome_neighbour? (pos : 0 < m) (short : m < 2 ^ 53) {p : Int}
    (fine : (10 : ℚ) ^ p * 10 ^ 16 ≤ m * 2 ^ e) : (neighbour? m e p).isSome := by
  obtain ⟨scale, positive, -, number, -, power⟩ := exists_grid pos e p
  have covered := covers_iff pos e p
  unfold neighbour?
  generalize grid m e p = g at covered number power
  obtain ⟨lower, value, upper, unit⟩ := g
  dsimp only at covered number power ⊢
  have unitPos : 0 < unit := by
    have : (0 : ℚ) < unit := by rw [power]; positivity
    exact_mod_cast this
  have below : ((value / unit : Nat) : ℚ) * 10 ^ p ≤ m * 2 ^ e := by
    have le : (((value / unit * unit : Nat)) : ℚ) ≤ value :=
      Nat.cast_le.2 (Nat.div_mul_le_self value unit)
    rw [Nat.cast_mul, number, power, ← mul_assoc] at le
    exact le_of_mul_le_mul_right le positive
  have above : (m : ℚ) * 2 ^ e < (value / unit + 1 : Nat) * 10 ^ p := by
    have lt : (value : ℚ) < ((value / unit + 1) * unit : Nat) :=
      Nat.cast_lt.2 (Nat.mul_comm _ _ ▸ Nat.lt_mul_div_succ value unitPos)
    rw [Nat.cast_mul, number, power, ← mul_assoc] at lt
    exact lt_of_mul_lt_mul_right lt positive.le
  have oneCovered := roundsTo_or_succ short fine below above
  rw [← covered, ← covered] at oneCovered
  split
  · rfl
  · split
    · rfl
    · rename_i notDown
      rw [if_pos (oneCovered.resolve_left notDown)]
      rfl

/-- A power of ten with an exponent that is computed from that of a power of two is not larger, one
being subtracted for the inexact factor between the exponents. -/
theorem zpow_le_of_factor {a b : Nat} (pos : 0 < b) (low : (2 : ℚ) ^ b ≤ 10 ^ a)
    (high : (10 : ℚ) ^ a ≤ 10 * 2 ^ b) {bits : Int} (small : bits ≤ b) :
    (10 : ℚ) ^ (bits * a / b - 1) ≤ 2 ^ bits := by
  -- Raised to the power of `b`, the quotient is compared with the exact product.
  have floor : bits * a / b * b ≤ bits * a := Int.ediv_mul_le _ (by omega)
  have raised : ((10 : ℚ) ^ (bits * a / b - 1)) ^ b ≤ (2 ^ bits) ^ b := by
    rw [← zpow_natCast, ← zpow_natCast, ← zpow_mul, ← zpow_mul]
    have shrink : (bits * a / b - 1) * b ≤ bits * a - b := by rw [Int.sub_mul]; omega
    refine (zpow_le_zpow_right₀ (by norm_num) shrink).trans ?_
    rcases le_total bits 0 with negative | nonneg
    · obtain ⟨n, rfl⟩ := Int.exists_eq_neg_ofNat negative
      calc (10 : ℚ) ^ (-(n : Int) * a - b) ≤ 10 ^ (-((a * n : Nat) : Int)) :=
            zpow_le_zpow_right₀ (by norm_num) (by
              push_cast
              rw [Int.neg_mul, Int.mul_comm (a : Int)]
              omega)
        _ = ((10 ^ a) ^ n)⁻¹ := by rw [zpow_neg, zpow_natCast, pow_mul]
        _ ≤ ((2 ^ b) ^ n)⁻¹ := by gcongr
        _ = 2 ^ (-((b * n : Nat) : Int)) := by rw [zpow_neg, zpow_natCast, pow_mul]
        _ = 2 ^ (-(n : Int) * b) := by congr 1; push_cast; ring
    · obtain ⟨n, rfl⟩ := Int.eq_ofNat_of_zero_le nonneg
      have exponents : (n : Int) * a - b = ((a * n : Nat) : Int) - (b : Int) := by push_cast; ring
      have power : (2 : ℚ) ^ ((n : Int) * b) = (2 ^ b) ^ n := by
        rw [← pow_mul, ← zpow_natCast]
        congr 1
        push_cast
        ring
      rw [exponents, zpow_sub₀ (by norm_num), zpow_natCast, zpow_natCast, power,
        div_le_iff₀ (by positivity)]
      calc (10 : ℚ) ^ (a * n) = (10 ^ a) ^ n := pow_mul _ _ _
        _ ≤ (10 * 2 ^ b) ^ n := by gcongr
        _ = (2 ^ b) ^ n * 10 ^ n := by rw [mul_pow, mul_comm]
        _ ≤ (2 ^ b) ^ n * 10 ^ b := by
          gcongr
          · norm_num
          · exact_mod_cast small
  exact le_of_pow_le_pow_left₀ pos.ne' (by positivity) raised

/-- The exponent of the leading digit is not too large. -/
theorem zpow_decimalExponent_le (pos : 0 < m) (short : m < 2 ^ 53) (high : e ≤ maxExponent) :
    (10 : ℚ) ^ decimalExponent m e ≤ m * 2 ^ e := by
  have reaches (k : Int) (h : (grid m e k).2.2.2 ≤ (grid m e k).2.1) :
      (10 : ℚ) ^ k ≤ m * 2 ^ e := by
    obtain ⟨unit, positive, -, number, -, power⟩ := exists_grid pos e k
    rw [← Nat.cast_le (α := ℚ), power, number] at h
    exact le_of_mul_le_mul_right h positive
  have bits : (2 : ℚ) ^ ((m.log2 : Int) + e) ≤ m * 2 ^ e := by
    rw [zpow_add₀ two_ne_zero, zpow_natCast]
    have first : (2 : ℚ) ^ m.log2 ≤ m := by exact_mod_cast Nat.log2_self_le pos.ne'
    gcongr
  have low : (2 : ℚ) ^ 100000 ≤ 10 ^ 30103 := by
    have le : powerOfTwo 100000 ≤ powerOfTen 30103 := by decide +kernel
    rwa [← Nat.cast_le (α := ℚ), cast_powerOfTwo, cast_powerOfTen] at le
  have high' : (10 : ℚ) ^ 30103 ≤ 10 * 2 ^ 100000 := by
    have le : powerOfTen 30103 ≤ 10 * powerOfTwo 100000 := by decide +kernel
    rwa [← Nat.cast_le (α := ℚ), Nat.cast_mul, cast_powerOfTwo, cast_powerOfTen,
      Nat.cast_ofNat] at le
  have small : (m.log2 : Int) + e ≤ 100000 := by
    have log : m.log2 < 53 := (Nat.log2_lt pos.ne').2 short
    unfold maxExponent at high
    omega
  unfold decimalExponent
  dsimp only
  split
  · rename_i h
    exact reaches _ (by simpa using h)
  · split
    · rename_i h
      exact reaches _ (by simpa using h)
    · exact (zpow_le_of_factor (by decide) low high' small).trans bits

/-- Removing zeros from the digits keeps the decimal. -/
theorem trimZeros_eq (steps digits : Nat) (power : Int) :
    ((trimZeros steps digits power).1 : ℚ) * 10 ^ (trimZeros steps digits power).2 =
      digits * 10 ^ power := by
  induction steps generalizing digits power with
  | zero => rfl
  | succ steps ih =>
    unfold trimZeros
    split
    · rename_i zero
      have parts : (digits : ℚ) = 10 * (digits / 10 : Nat) := by
        have := Nat.div_add_mod digits 10
        rw [zero.1, Nat.add_zero] at this
        exact_mod_cast this.symm
      rw [ih, parts, zpow_add_one₀ (by norm_num)]
      ring
    · rfl

/-- The decimal that is tried on the grid with so many digits after the leading one. -/
def candidate? (m : Nat) (e : Int) (extra : Nat) : Option (Nat × Int) :=
  (neighbour? m e (decimalExponent m e - extra)).map (·, decimalExponent m e - extra)

/-- The search stops at the first candidate, whose trailing zeros are dropped. -/
theorem shortest_eq {m : Nat} {e : Int} {digits : Nat} {power : Int}
    (first : (List.range 17).findSome? (candidate? m e) = some (digits, power)) :
    shortest m e = trimZeros 18 digits power := by
  unfold candidate? at first
  unfold shortest
  dsimp only
  rw [first]
  rfl

/-- On the grid with 17 digits there is a candidate. -/
theorem isSome_candidate? (pos : 0 < m) (canonical : IsCanonical m e) :
    (candidate? m e 16).isSome := by
  rw [candidate?, Option.isSome_map]
  refine isSome_neighbour? pos canonical.short ?_
  have leading := zpow_decimalExponent_le pos canonical.short canonical.high
  rw [← zpow_natCast, ← zpow_add₀ (by norm_num)]
  convert leading using 2
  push_cast
  ring

/-- The shortest decimal of a number lies in its interval. -/
theorem roundsTo_shortest (pos : 0 < m) (canonical : IsCanonical m e) :
    RoundsTo ((shortest m e).1 * 10 ^ (shortest m e).2) m e := by
  have found : ((List.range 17).findSome? (candidate? m e)).isSome :=
    List.findSome?_isSome_iff.2 ⟨16, by decide, isSome_candidate? pos canonical⟩
  obtain ⟨⟨digits, power⟩, first⟩ := Option.isSome_iff_exists.1 found
  obtain ⟨extra, -, candidate⟩ := List.exists_of_findSome?_eq_some first
  obtain ⟨d, neighbour, same⟩ := Option.map_eq_some_iff.1 candidate
  cases same
  rw [shortest_eq first, trimZeros_eq]
  exact roundsTo_of_neighbour? pos neighbour

end

/-! ## Reading decimals -/

section

variable {m : Nat} {e : Int}

/-- What lies in the interval of a positive number is at least half of the smallest one. -/
theorem RoundsTo.half_le {q : ℚ} (h : RoundsTo q m e) (pos : 0 < m) (canonical : IsCanonical m e) :
    2 ^ (minExponent - 1) ≤ q := by
  have one : (1 : ℚ) ≤ m := by exact_mod_cast pos
  have lower : 1 / 2 ≤ q / 2 ^ e := by
    have := h.isRounded.lower
    linarith
  rw [le_div_iff₀ (by positivity)] at lower
  calc (2 : ℚ) ^ (minExponent - 1) ≤ 2 ^ (e - 1) :=
        zpow_le_zpow_right₀ one_le_two (by have := canonical.low; omega)
    _ = 1 / 2 * 2 ^ e := by rw [zpow_sub_one₀ two_ne_zero]; ring
    _ ≤ q := lower

/-- The digits of a number bound it from both sides. -/
theorem length_toDigits_bounds {n : Nat} (pos : 0 < n) :
    10 ^ ((Nat.toDigits 10 n).length - 1) ≤ n ∧ n < 10 ^ (Nat.toDigits 10 n).length := by
  have nonempty : 0 < (Nat.toDigits 10 n).length := Nat.length_toDigits_pos
  refine ⟨?_, (Nat.length_toDigits_le_iff (by decide) nonempty).1 le_rfl⟩
  by_contra! less
  rcases Nat.eq_zero_or_pos ((Nat.toDigits 10 n).length - 1) with zero | more
  · rw [zero] at less
    omega
  · have short := (Nat.length_toDigits_le_iff (by decide) more).2 less
    omega

/-- So they do for a decimal. -/
theorem zpow_length_toDigits_bounds {n : Nat} (pos : 0 < n) (exponent : Int) :
    (10 : ℚ) ^ ((Nat.toDigits 10 n).length + exponent - 1) ≤ n * 10 ^ exponent ∧
      (n : ℚ) * 10 ^ exponent < 10 ^ ((Nat.toDigits 10 n).length + exponent) := by
  have nonempty : 0 < (Nat.toDigits 10 n).length := Nat.length_toDigits_pos
  obtain ⟨least, most⟩ := length_toDigits_bounds pos
  generalize (Nat.toDigits 10 n).length = width at *
  have ten : (0 : ℚ) < 10 ^ exponent := by positivity
  have least : (10 : ℚ) ^ (width - 1) ≤ n := by exact_mod_cast least
  have most : (n : ℚ) < 10 ^ width := by exact_mod_cast most
  constructor
  · have parts : (width : Int) + exponent - 1 = (width - 1 : Nat) + exponent := by omega
    rw [parts, zpow_add₀ (by norm_num), zpow_natCast]
    exact mul_le_mul_of_nonneg_right least ten.le
  · rw [zpow_add₀ (by norm_num), zpow_natCast]
    exact mul_lt_mul_of_pos_right most ten

theorem overflow_le_zpow : overflow ≤ (10 : ℚ) ^ (310 : Int) := by
  have bound : powerOfTwo 1024 - powerOfTwo 970 ≤ powerOfTen 310 := by decide +kernel
  rwa [← Nat.cast_le (α := ℚ), ← overflow_eq, cast_powerOfTen] at bound

theorem zpow_le_half : (10 : ℚ) ^ (-331 : Int) ≤ 2 ^ (minExponent - 1) := by
  have bound : powerOfTwo 1075 ≤ powerOfTen 331 := by decide +kernel
  rw [← Nat.cast_le (α := ℚ), cast_powerOfTwo, cast_powerOfTen] at bound
  calc (10 : ℚ) ^ (-331 : Int) = (10 ^ 331)⁻¹ := by rw [zpow_neg, zpow_ofNat]
    _ ≤ (2 ^ 1075)⁻¹ := inv_anti₀ (by positivity) bound
    _ = 2 ^ (minExponent - 1) := by rw [← zpow_natCast, ← zpow_neg]; rfl

/-- A decimal in the interval of a number is rounded to it. -/
theorem ofDecimal_of_roundsTo (negative : Bool) {digits : Nat} {exponent : Int} (pos : 0 < m)
    (canonical : IsCanonical m e) (rounds : RoundsTo (digits * 10 ^ exponent) m e) :
    ofDecimal negative digits exponent = .finite negative m e := by
  have low := rounds.half_le pos canonical
  have high := rounds.lt_overflow canonical
  have nonzero : digits ≠ 0 := by
    rintro rfl
    rw [Nat.cast_zero, zero_mul] at low
    exact absurd low (not_le.2 (by positivity))
  obtain ⟨least, most⟩ := zpow_length_toDigits_bounds (Nat.pos_of_ne_zero nonzero) exponent
  unfold ofDecimal
  dsimp only
  generalize (Nat.toDigits 10 digits).length = width at *
  have ten : (1 : ℚ) < 10 := by norm_num
  have notLarge : ¬310 < width + exponent := by
    have less := (zpow_lt_zpow_iff_right₀ ten).1 (least.trans_lt (high.trans_le overflow_le_zpow))
    omega
  have notSmall : ¬width + exponent < -330 := by
    have less := (zpow_lt_zpow_iff_right₀ ten).1 (zpow_le_half.trans_lt (low.trans_lt most))
    omega
  rw [if_neg nonzero, if_neg notLarge, if_neg notSmall]
  have power (n : Nat) : 0 < powerOfTen n := Nat.pow_pos (by decide)
  split
  · rename_i nonneg
    obtain ⟨n, rfl⟩ := Int.eq_ofNat_of_zero_le nonneg
    refine (ofRatio_eq_iff negative (Nat.mul_ne_zero nonzero (power _).ne') one_pos).2
      ⟨canonical, ?_⟩
    rwa [Int.toNat_natCast, Nat.cast_mul, cast_powerOfTen, Nat.cast_one, div_one, ← zpow_natCast]
  · rename_i below
    obtain ⟨n, rfl⟩ := Int.exists_eq_neg_ofNat (not_le.1 below).le
    refine (ofRatio_eq_iff negative nonzero (power _)).2 ⟨canonical, ?_⟩
    rwa [Int.neg_neg, Int.toNat_natCast, cast_powerOfTen, div_eq_mul_inv, ← zpow_natCast,
      ← zpow_neg]

end

end Binary64

/-! ## Reading digits -/

section

variable {digits others : List Char}

/-- The digits that stand first count for the place that they stand at. -/
theorem digitsValue_append_list (digits others : List Char) : digitsValue (digits ++ others) =
    digitsValue digits * 10 ^ others.length + digitsValue others := by
  induction others using List.reverseRecOn with
  | nil => simp [digitsValue]
  | append_singleton others last ih =>
    rw [← List.append_assoc, digitsValue_append, digitsValue_append, ih, List.length_append,
      List.length_singleton, Nat.pow_succ]
    ring

theorem digitsValue_replicate_zero (k : Nat) : digitsValue (List.replicate k '0') = 0 := by
  induction k with
  | zero => rfl
  | succ k ih =>
    rw [List.replicate_succ', digitsValue_append, ih]
    rfl

theorem digitsValue_zero_cons (digits : List Char) :
    digitsValue ('0' :: digits) = digitsValue digits := by
  rw [← List.singleton_append, digitsValue_append_list]
  exact (Nat.zero_mul _).symm ▸ Nat.zero_add _

/-- The decimal digits of a number are read as the number. -/
theorem digitsValue_toDigits (n : Nat) : digitsValue (Nat.toDigits 10 n) = n := by
  have single : ∀ digit < 10, digit.digitChar.toNat - '0'.toNat = digit := by decide
  induction n using Nat.strongRecOn with
  | ind n ih =>
    by_cases small : n < 10
    · rw [Nat.toDigits_of_lt_base small, ← List.nil_append [_], digitsValue_append, single n small]
      exact Nat.zero_add n
    · have large : 10 ≤ n := Nat.not_lt.1 small
      rw [Nat.toDigits_of_base_le (by decide) large, digitsValue_append, ih _ (by omega),
        single _ (Nat.mod_lt n (by decide))]
      exact Nat.div_add_mod n 10

theorem isDigit_of_mem_toDigits {n : Nat} {c : Char} (mem : c ∈ Nat.toDigits 10 n) : c.isDigit :=
  Nat.isDigit_of_mem_toDigits (by decide) (by decide) mem

/-- The digits that a numeral begins with. -/
theorem span_digits {digits : List Char} (rest : List Char) (isText : ∀ c ∈ digits, c.isDigit)
    (other : ∀ c ∈ rest.head?, ¬c.isDigit) :
    (digits ++ rest).takeWhile Char.isDigit = digits ∧
      (digits ++ rest).dropWhile Char.isDigit = rest := by
  rw [List.takeWhile_append_of_pos isText, List.dropWhile_append_of_pos isText]
  cases rest with
  | nil => simp
  | cons c rest => simp [other c rfl]

/-- A numeral with a point is read as its digits, with as many powers of ten less as there are
digits after the point. -/
theorem decimalNumeral?_point (negative : Bool) {whole fraction : List Char} (nonempty : whole ≠ [])
    (isWhole : ∀ c ∈ whole, c.isDigit) (isFraction : ∀ c ∈ fraction, c.isDigit) :
    decimalNumeral? negative (whole ++ '.' :: fraction) =
      some (Binary64.ofDecimal negative (digitsValue (whole ++ fraction)) (-fraction.length)) := by
  have before := span_digits ('.' :: fraction) isWhole (by rintro c ⟨⟩; decide)
  have after := span_digits [] isFraction nofun
  rw [List.append_nil] at after
  have digits : (whole ++ fraction).isEmpty = false := by simp [nonempty]
  simp only [decimalNumeral?, before, after, digits, Bool.false_eq_true, ↓reduceIte, zero_sub]

/-- The digits of a numeral before its exponent, with a point after the first of them if there are
others. -/
def pointed (whole : Char) (fraction : List Char) : List Char :=
  whole :: if fraction.isEmpty then [] else '.' :: fraction

/-- A numeral with an exponent is read as its digits at that exponent, with as many powers of ten
less as there are digits after the point. -/
theorem decimalNumeral?_exponent (negative : Bool) {whole : Char} {fraction shown : List Char}
    (isWhole : whole.isDigit) (isFraction : ∀ c ∈ fraction, c.isDigit) (nonempty : shown ≠ [])
    (isShown : ∀ c ∈ shown, c.isDigit) (below : Bool) :
    decimalNumeral? negative
        (pointed whole fraction ++ 'e' :: (if below then '-' else '+') :: shown) =
      some (Binary64.ofDecimal negative (digitsValue (whole :: fraction))
        ((if below then -(digitsValue shown : Int) else digitsValue shown) - fraction.length)) := by
  have sign : takeSign ((if below then '-' else '+') :: shown) = (below, shown) := by
    cases below <;> rfl
  have all : shown.all Char.isDigit = true := List.all_eq_true.2 isShown
  generalize (if below then '-' else '+') :: shown = signed at *
  have first (rest : List Char) := @span_digits [whole] rest (by simpa using isWhole)
  unfold pointed
  split
  · rename_i none
    rw [List.isEmpty_iff.1 none]
    obtain ⟨before, after⟩ := first ('e' :: signed) (by rintro c ⟨⟩; decide)
    rw [List.singleton_append] at before after
    simp [decimalNumeral?, before, after, sign, all, nonempty]
  · have last := span_digits ('e' :: signed) isFraction (by rintro c ⟨⟩; decide)
    obtain ⟨before, after⟩ := first ('.' :: (fraction ++ 'e' :: signed))
      (by rintro c ⟨⟩; decide)
    rw [List.singleton_append] at before after
    simp [decimalNumeral?, before, after, last, sign, all, nonempty]

/-! ## Written numbers -/

/-- The forms of the numerals of a decimal: digits with a point among them, or with an exponent
after them. -/
inductive WritesDecimal : List Char → Nat → Int → Prop
  | point {whole fraction : List Char} (nonempty : whole ≠ [])
    (isWhole : ∀ c ∈ whole, c.isDigit) (isFraction : ∀ c ∈ fraction, c.isDigit) :
    WritesDecimal (whole ++ '.' :: fraction) (digitsValue (whole ++ fraction)) (-fraction.length)
  | exponent {whole : Char} {fraction shown : List Char} (isWhole : whole.isDigit)
    (isFraction : ∀ c ∈ fraction, c.isDigit) (nonempty : shown ≠ [])
    (isShown : ∀ c ∈ shown, c.isDigit) (below : Bool) :
    WritesDecimal (pointed whole fraction ++ 'e' :: (if below then '-' else '+') :: shown)
      (digitsValue (whole :: fraction))
      ((if below then -(digitsValue shown : Int) else digitsValue shown) - fraction.length)

/-- A numeral is read as the decimal that it writes. -/
theorem WritesDecimal.decimalNumeral?_eq {numeral : List Char} {n : Nat} {exponent : Int}
    (h : WritesDecimal numeral n exponent) (negative : Bool) :
    decimalNumeral? negative numeral = some (Binary64.ofDecimal negative n exponent) := by
  cases h with
  | point nonempty isWhole isFraction =>
    exact decimalNumeral?_point negative nonempty isWhole isFraction
  | exponent isWhole isFraction nonempty isShown below =>
    exact decimalNumeral?_exponent negative isWhole isFraction nonempty isShown below

/-- A numeral begins with a digit, and a point or the letter of the exponent follows its first
digits. -/
theorem WritesDecimal.exists_eq {numeral : List Char} {n : Nat} {exponent : Int}
    (h : WritesDecimal numeral n exponent) : ∃ first others mark rest,
      numeral = first :: others ++ mark :: rest ∧ (∀ c ∈ first :: others, c.isDigit) ∧
        (mark = '.' ∨ mark = 'e') := by
  cases h with
  | @point whole fraction nonempty isWhole isFraction =>
    obtain ⟨first, others, rfl⟩ := List.exists_cons_of_ne_nil nonempty
    exact ⟨first, others, '.', fraction, rfl, isWhole, .inl rfl⟩
  | @exponent whole fraction shown isWhole isFraction nonempty isShown below =>
    have isWhole : ∀ c ∈ [whole], c.isDigit := by simpa using isWhole
    unfold pointed
    split
    · exact ⟨whole, [], 'e', _, rfl, isWhole, .inr rfl⟩
    · exact ⟨whole, [], '.', _, rfl, isWhole, .inl rfl⟩

def WritesValue (numeral : List Char) (q : ℚ) : Prop :=
  ∃ (n : Nat) (exponent : Int), WritesDecimal numeral n exponent ∧ (n : ℚ) * 10 ^ exponent = q

/-- Digits with a point among them write the digits at some power of ten. -/
theorem writesValue_positional (nonempty : digits ≠ []) (isText : ∀ c ∈ digits, c.isDigit)
    (point : Int) : WritesValue (Binary64.positional digits point)
      (digitsValue digits * 10 ^ (point - digits.length)) := by
  have zeros (k : Nat) : ∀ c ∈ List.replicate k '0', c.isDigit := fun c mem => by
    rw [List.eq_of_mem_replicate mem]
    decide
  unfold Binary64.positional
  split
  · rename_i low
    have all : ∀ c ∈ List.replicate (-point).toNat '0' ++ digits, c.isDigit :=
      List.forall_mem_append.2 ⟨zeros _, isText⟩
    refine ⟨_, _, .point (List.cons_ne_nil '0' []) (List.forall_mem_singleton.2 (by decide)) all, ?_⟩
    rw [List.singleton_append, digitsValue_zero_cons, digitsValue_append_list,
      digitsValue_replicate_zero, Nat.zero_mul, Nat.zero_add, List.length_append,
      List.length_replicate]
    congr 2
    omega
  · split
    · rename_i high long
      obtain ⟨k, isPoint⟩ : ∃ k : Nat, point = (digits.length + k : Nat) :=
        ⟨(point - digits.length).toNat, by omega⟩
      have count : point.toNat - digits.length = k := by omega
      have all : ∀ c ∈ digits ++ List.replicate k '0', c.isDigit :=
        List.forall_mem_append.2 ⟨isText, zeros k⟩
      rw [count]
      refine ⟨_, _, .point (by simp [nonempty]) all (List.forall_mem_singleton.2 (by decide)), ?_⟩
      have exponent : point - digits.length = k := by omega
      rw [digitsValue_append_list, digitsValue_append_list, digitsValue_replicate_zero,
        List.length_replicate, exponent, zpow_natCast]
      simp [digitsValue]
    · rename_i high short
      obtain ⟨k, rfl⟩ := Int.eq_ofNat_of_zero_le (not_le.1 high).le
      rw [Int.toNat_natCast]
      have begun : digits.take k ≠ [] := by
        simp only [ne_eq, List.take_eq_nil_iff, nonempty, or_false]
        omega
      refine ⟨_, _, .point begun (fun c mem => isText c (List.mem_of_mem_take mem))
        (fun c mem => isText c (List.mem_of_mem_drop mem)), ?_⟩
      rw [List.take_append_drop, List.length_drop]
      congr 2
      omega

/-- So do digits with an exponent after them. -/
theorem writesValue_scientific (nonempty : digits ≠ []) (isText : ∀ c ∈ digits, c.isDigit)
    (point : Int) : WritesValue (Binary64.scientific digits point)
      (digitsValue digits * 10 ^ (point - digits.length)) := by
  obtain ⟨first, others, rfl⟩ := List.exists_cons_of_ne_nil nonempty
  obtain ⟨isFirst, isOthers⟩ := List.forall_mem_cons.1 isText
  obtain ⟨shown, eq⟩ : ∃ shown, shown =
      if (Nat.toDigits 10 (point - 1).natAbs).length < 2 then
        '0' :: Nat.toDigits 10 (point - 1).natAbs
      else Nat.toDigits 10 (point - 1).natAbs := ⟨_, rfl⟩
  have shownNonempty : shown ≠ [] := by
    rw [eq]
    split
    · exact List.cons_ne_nil _ _
    · exact Nat.toDigits_ne_nil
  have isShown : ∀ c ∈ shown, c.isDigit := by
    rw [eq]
    split
    · exact List.forall_mem_cons.2 ⟨by decide, fun c => isDigit_of_mem_toDigits⟩
    · exact fun c => isDigit_of_mem_toDigits
  have size : digitsValue shown = (point - 1).natAbs := by
    rw [eq]
    split
    · rw [digitsValue_zero_cons, digitsValue_toDigits]
    · exact digitsValue_toDigits _
  have text : Binary64.scientific (first :: others) point = pointed first others ++
      'e' :: (if decide (point - 1 < 0) then '-' else '+') :: shown := by
    rw [eq]
    unfold Binary64.scientific pointed
    cases others <;> simp
  rw [text]
  refine ⟨_, _, .exponent isFirst isOthers shownNonempty isShown (point - 1 < 0), ?_⟩
  rw [size, List.length_cons]
  congr 2
  split <;> rename_i sign <;> simp only [decide_eq_true_eq] at sign <;> omega

end

namespace Binary64

variable {m : Nat} {e : Int}

/-- The written form of a number writes its shortest decimal. -/
theorem writesValue_magnitudeText (m : Nat) (e : Int) :
    WritesValue (magnitudeText m e) ((shortest m e).1 * 10 ^ (shortest m e).2) := by
  unfold magnitudeText
  obtain ⟨digits, power⟩ := shortest m e
  have positional := @writesValue_positional (Nat.toDigits 10 digits) Nat.toDigits_ne_nil
    (fun c => isDigit_of_mem_toDigits) (power + (Nat.toDigits 10 digits).length)
  have scientific := @writesValue_scientific (Nat.toDigits 10 digits) Nat.toDigits_ne_nil
    (fun c => isDigit_of_mem_toDigits) (power + (Nat.toDigits 10 digits).length)
  rw [digitsValue_toDigits, Int.add_sub_cancel] at positional scientific
  dsimp only
  split
  · exact positional
  · exact scientific

/-- The written form of a number is read as the number. -/
theorem decimalNumeral?_magnitudeText (pos : 0 < m) (canonical : IsCanonical m e)
    (negative : Bool) :
    decimalNumeral? negative (magnitudeText m e) = some (.finite negative m e) := by
  obtain ⟨digits, exponent, writes, same⟩ := writesValue_magnitudeText m e
  rw [writes.decimalNumeral?_eq, ofDecimal_of_roundsTo negative pos canonical
    (same ▸ roundsTo_shortest pos canonical)]

end Binary64

end SchemaClasses
