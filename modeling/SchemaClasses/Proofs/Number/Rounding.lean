import Mathlib.Algebra.Order.Field.Power
import Mathlib.Data.Rat.Cast.Order
import Mathlib.Tactic.FieldSimp
import Mathlib.Tactic.Linarith
import Mathlib.Tactic.Positivity
import Mathlib.Tactic.Ring
import SchemaClasses.Proofs.Number.Range

/-!
# Rounding

A finite number that is not negative is `mantissa * 2 ^ exponent` in one form only: the exponent is
the smallest one, or the mantissa has 53 bits. The reals that are rounded to it lie within half a
unit of the mantissa; below a power of two, where the numbers lie closer together, within a quarter.
An end of this interval belongs to it if the mantissa is even.

A quotient is rounded to the number in whose interval it lies, and no other number is as near,
unless the quotient is an end of the interval. It is finite as long as it is below the upper end of
the interval of the largest number.

## Main definitions

* `Binary64.IsCanonical`: the mantissa and the exponent are in the only form.
* `Binary64.RoundsTo`: a real lies in the interval of a number.
* `Binary64.IsRoundedTo`: a real lies in the interval of a number, or beyond all of them.
* `Binary64.IsNearest`: no other number is nearer to a real, or as near and even.

## Main statements

* `Binary64.ofRatio_eq_iff`: a quotient is rounded to the number in whose interval it lies.
* `Binary64.isSome_ofInt?_iff`: the integers that have a nearest number.
* `Binary64.isNearest_of_ofInt?`: the number of an integer is nearest to it.
-/

namespace SchemaClasses.Binary64

/-! ## Intervals -/

structure IsCanonical (mantissa : Nat) (exponent : Int) : Prop where
  short : mantissa < 2 ^ 53
  low : minExponent ≤ exponent
  high : exponent ≤ maxExponent
  least : exponent = minExponent ∨ 2 ^ 52 ≤ mantissa

/-- How far the interval of a number reaches below it, in units of its mantissa. -/
def gapBelow (mantissa : Nat) (exponent : Int) : ℚ :=
  if mantissa = 2 ^ 52 ∧ minExponent < exponent then 1 / 4 else 1 / 2

/-- A real lies in the interval of a number, the ends of which belong to even mantissas. -/
structure RoundsTo (q : ℚ) (mantissa : Nat) (exponent : Int) : Prop where
  lower : mantissa - gapBelow mantissa exponent ≤ q / 2 ^ exponent
  upper : q / 2 ^ exponent ≤ mantissa + 1 / 2
  even : q / 2 ^ exponent = mantissa - gapBelow mantissa exponent ∨
    q / 2 ^ exponent = mantissa + 1 / 2 → mantissa % 2 = 0

theorem gapBelow_pos (m : Nat) (e : Int) : 0 < gapBelow m e := by
  unfold gapBelow
  split <;> norm_num

theorem gapBelow_le (m : Nat) (e : Int) : gapBelow m e ≤ 1 / 2 := by
  unfold gapBelow
  split <;> norm_num

/-- A number lies in its own interval. -/
theorem roundsTo_self (m : Nat) (e : Int) : RoundsTo (m * 2 ^ e) m e := by
  have gap := gapBelow_pos m e
  have unit : (m : ℚ) * 2 ^ e / 2 ^ e = m := mul_div_cancel_right₀ _ (by positivity)
  exact ⟨by rw [unit]; linarith, by rw [unit]; linarith, by rw [unit]; rintro (h | h) <;> linarith⟩

theorem div_two_zpow_sub_one (q : ℚ) (e : Int) : q / 2 ^ (e - 1) = 2 * (q / 2 ^ e) := by
  rw [zpow_sub_one₀ two_ne_zero]
  field_simp

/-! ## Rounding to whole numbers -/

/-- A whole number is nearest to a real, and even if another is as near. -/
structure IsRounded (x : ℚ) (r : Nat) : Prop where
  lower : r - 1 / 2 ≤ x
  upper : x ≤ r + 1 / 2
  even : x = r - 1 / 2 ∨ x = r + 1 / 2 → r % 2 = 0

/-- The nearest whole number is unique. -/
theorem IsRounded.le {x : ℚ} {r s : Nat} (h : IsRounded x r) (h' : IsRounded x s) : r ≤ s := by
  by_contra! less
  have next : (s : ℚ) + 1 ≤ r := by exact_mod_cast less
  have lower := h.lower
  have upper := h'.upper
  have same : (r : ℚ) = (s + 1 : Nat) := by push_cast; linarith
  have first := h.even (.inl (by linarith))
  have second := h'.even (.inr (by linarith))
  have : r = s + 1 := by exact_mod_cast same
  omega

theorem IsRounded.unique {x : ℚ} {r s : Nat} (h : IsRounded x r) (h' : IsRounded x s) : r = s :=
  Nat.le_antisymm (h.le h') (h'.le h)

/-- The quotient that is computed is nearest, and even if two are as near. -/
theorem isRounded_roundQuotient (n : Nat) {d : Nat} (pos : 0 < d) :
    IsRounded (n / d) (roundQuotient n d) := by
  have pos' : (0 : ℚ) < d := by exact_mod_cast pos
  obtain ⟨t, eq⟩ : ∃ t : ℚ, t = (n % d : Nat) / d := ⟨_, rfl⟩
  have parts : (n : ℚ) / d = (n / d : Nat) + t := by
    rw [eq, add_div' _ _ _ pos'.ne', div_left_inj' pos'.ne']
    exact_mod_cast (Nat.div_add_mod' n d).symm
  have nonneg : 0 ≤ t := by rw [eq]; positivity
  have less : t < 1 := by
    rw [eq, div_lt_one pos']
    exact_mod_cast Nat.mod_lt n pos
  have half : t < 1 / 2 ↔ 2 * (n % d) < d := by
    rw [eq, div_lt_div_iff₀ pos' two_pos, one_mul, mul_comm]
    exact_mod_cast Iff.rfl
  have half' : 1 / 2 < t ↔ d < 2 * (n % d) := by
    rw [eq, div_lt_div_iff₀ two_pos pos', one_mul, mul_comm]
    exact_mod_cast Iff.rfl
  rw [parts]
  unfold roundQuotient
  dsimp only
  generalize n / d = below
  have next : ((below + 1 : Nat) : ℚ) = below + 1 := Nat.cast_succ below
  split
  · rename_i small
    have small := half.2 small
    exact ⟨by linarith, by linarith, by rintro (h | h) <;> linarith⟩
  · split
    · rename_i large
      have large := half'.2 large
      exact ⟨by linarith, by linarith, by rintro (h | h) <;> exfalso <;> linarith⟩
    · rename_i notSmall notLarge
      have middle : t = 1 / 2 :=
        le_antisymm (not_lt.1 (mt half'.1 notLarge)) (not_lt.1 (mt half.1 notSmall))
      rw [middle]
      rcases Nat.mod_two_eq_zero_or_one below with even | odd
      · rw [even, Nat.add_zero]
        exact ⟨by linarith, le_rfl, fun _ => even⟩
      · rw [odd]
        exact ⟨by linarith, by linarith, fun _ => by omega⟩

/-! ## Rounding to numbers -/

/-- Scaling divides by the power of two, whatever the sign of the exponent. -/
theorem scaled_div (num den : Nat) (e : Int) :
    ((scaled num den e).1 : ℚ) / (scaled num den e).2 = num / den / 2 ^ e := by
  by_cases negative : e < 0
  · obtain ⟨n, rfl⟩ := Int.exists_eq_neg_ofNat negative.le
    rw [scaled, if_neg (by omega), Int.neg_neg, Int.toNat_natCast, zpow_neg, zpow_natCast]
    simp only [powerOfTwo, Nat.pow_eq]
    push_cast
    field_simp
  · obtain ⟨n, rfl⟩ := Int.eq_ofNat_of_zero_le (Int.not_lt.1 negative)
    rw [scaled, if_pos (by omega), Int.toNat_natCast, zpow_natCast]
    simp only [powerOfTwo, Nat.pow_eq]
    push_cast
    field_simp

/-- A quotient has at least one bit less than the difference of the lengths of its parts. -/
theorem le_of_log2 {num den : Nat} (nonzero : num ≠ 0) :
    (2 : ℚ) ^ ((num.log2 : Int) - den.log2 - 1) * den ≤ num := by
  have above : (den : ℚ) < 2 ^ (den.log2 + 1) := by exact_mod_cast den.lt_log2_self
  have below : (2 : ℚ) ^ num.log2 ≤ num := by exact_mod_cast Nat.log2_self_le nonzero
  have split : (num.log2 : Int) = (num.log2 : Int) - den.log2 - 1 + (den.log2 + 1 : Nat) := by
    omega
  calc (2 : ℚ) ^ ((num.log2 : Int) - den.log2 - 1) * den
      ≤ 2 ^ ((num.log2 : Int) - den.log2 - 1) * 2 ^ (den.log2 + 1) := by
        gcongr
    _ = 2 ^ num.log2 := by
      rw [← zpow_natCast, ← zpow_natCast, ← zpow_add₀ two_ne_zero, ← split]
    _ ≤ num := below

/-- At the exponent of a quotient, it has 53 bits before the point, or less at the smallest. -/
theorem quotientExponent_spec {num den : Nat} (nonzero : num ≠ 0) (pos : 0 < den) :
    (num : ℚ) / den / 2 ^ quotientExponent num den < 2 ^ 53 ∧
      (quotientExponent num den = minExponent ∨
        2 ^ 52 ≤ (num : ℚ) / den / 2 ^ quotientExponent num den) := by
  have pos' : (0 : ℚ) < den := by exact_mod_cast pos
  constructor
  · rw [div_lt_iff₀ (by positivity), div_lt_iff₀ pos', ← zpow_natCast, ← zpow_add₀ two_ne_zero,
      mul_comm, add_comm]
    exact lt_of_quotientExponent pos
  · have longest := @le_of_log2 num den nonzero
    unfold quotientExponent
    extract_lets guess
    have quotient := scaled_div num den guess
    have posScaled := scaled_pos num pos guess
    split
    rename_i n d eq
    rw [eq] at quotient posScaled
    have large : 2 ^ 52 ≤ (num : ℚ) / den /
        2 ^ (if powerOfTwo 53 ≤ n / d then guess + 1 else guess) := by
      split
      · rename_i long
        have long : (2 : ℚ) ^ 53 ≤ n / d := by
          rw [le_div_iff₀ (by exact_mod_cast posScaled)]
          exact_mod_cast (Nat.le_div_iff_mul_le posScaled).1 long
        have half := div_two_zpow_sub_one ((num : ℚ) / den) (guess + 1)
        rw [Int.add_sub_cancel] at half
        linarith
      · have parts : (num.log2 : Int) - den.log2 - 1 = (52 : Nat) + guess := by omega
        rw [parts, zpow_add₀ two_ne_zero, zpow_natCast] at longest
        rwa [le_div_iff₀ (by positivity), le_div_iff₀ pos']
    rcases le_total minExponent (if powerOfTwo 53 ≤ n / d then guess + 1 else guess) with le | le
    · rw [max_eq_right le]
      exact .inr large
    · exact .inl (max_eq_left le)

section

variable {q : ℚ} {m : Nat} {e : Int}

theorem RoundsTo.isRounded (h : RoundsTo q m e) : IsRounded (q / 2 ^ e) m := by
  have gap := gapBelow_le m e
  have lower := h.lower
  refine ⟨by linarith, h.upper, ?_⟩
  rintro (below | above)
  · exact h.even (.inl (by linarith))
  · exact h.even (.inr above)

/-- What is rounded to a mantissa of 53 bits, or at the smallest exponent, is rounded to the
number. -/
theorem IsRounded.roundsTo (h : IsRounded (q / 2 ^ e) m)
    (least : e = minExponent ∨ 2 ^ 52 ≤ q / 2 ^ e) : RoundsTo q m e := by
  by_cases closer : m = 2 ^ 52 ∧ minExponent < e
  · have gap : gapBelow m e = 1 / 4 := if_pos closer
    have reaches := least.resolve_left closer.2.ne'
    refine ⟨?_, h.upper, fun _ => by rw [closer.1]; decide⟩
    rw [gap, closer.1]
    push_cast
    linarith
  · have gap : gapBelow m e = 1 / 2 := if_neg closer
    exact ⟨gap ▸ h.lower, h.upper, gap ▸ h.even⟩

/-- The largest mantissa is odd, so that the upper end of its interval does not belong to it. -/
theorem RoundsTo.lt_last (h : RoundsTo q m e) (canonical : IsCanonical m e) :
    q / 2 ^ e < 2 ^ 53 - 1 / 2 := by
  have short : (m : ℚ) + 1 ≤ 2 ^ 53 := by exact_mod_cast canonical.short
  refine lt_of_le_of_ne (h.upper.trans (by linarith)) fun last => ?_
  have upper := h.upper
  have same : (m : ℚ) = (2 ^ 53 - 1 : Nat) := by push_cast; linarith
  have same : m = 2 ^ 53 - 1 := by exact_mod_cast same
  have even := h.even (.inr (by linarith))
  rw [same] at even
  exact absurd even (by decide)

/-- Below a power of two, an interval reaches half as far as above it. -/
theorem RoundsTo.le_of_high (h : RoundsTo q m e) (least : minExponent < e) (high : 2 ^ 52 ≤ m) :
    2 ^ 52 - 1 / 4 ≤ q / 2 ^ e := by
  have lower := h.lower
  unfold gapBelow at lower
  split at lower
  · rename_i closer
    rw [closer.1] at lower
    exact_mod_cast lower
  · rename_i other
    have more : 2 ^ 52 + 1 ≤ m := Nat.lt_of_le_of_ne high fun same => other ⟨same.symm, least⟩
    have more : (2 : ℚ) ^ 52 + 1 ≤ m := by exact_mod_cast more
    linarith

/-- The interval of a number with a larger exponent lies above. -/
theorem RoundsTo.exponent_le {n : Nat} {f : Int} (h : RoundsTo q m e) (h' : RoundsTo q n f)
    (canonical : IsCanonical m e) (canonical' : IsCanonical n f) : f ≤ e := by
  by_contra! less
  -- In the unit of the smaller exponent, the interval of the other begins beyond 53 bits.
  have least : minExponent < f := canonical.low.trans_lt less
  have far := h'.le_of_high least (canonical'.least.resolve_left least.ne')
  have twice : 2 * (q / 2 ^ f) ≤ q / 2 ^ e := by
    have power : (2 : ℚ) ^ (1 : Int) ≤ 2 ^ (f - e) :=
      zpow_le_zpow_right₀ one_le_two (by omega)
    have parts : q / 2 ^ e = 2 ^ (f - e) * (q / 2 ^ f) := by
      rw [zpow_sub₀ two_ne_zero]
      field_simp
    rw [parts]
    exact mul_le_mul_of_nonneg_right (by simpa using power) (by linarith)
  have last := h.lt_last canonical
  linarith

/-- A real lies in the interval of one number only. -/
theorem RoundsTo.unique {n : Nat} {f : Int} (h : RoundsTo q m e) (h' : RoundsTo q n f)
    (canonical : IsCanonical m e) (canonical' : IsCanonical n f) : m = n ∧ e = f := by
  have same : e = f :=
    le_antisymm (h'.exponent_le h canonical' canonical) (h.exponent_le h' canonical canonical')
  subst same
  exact ⟨h.isRounded.unique h'.isRounded, rfl⟩

/-- The upper end of the interval of the largest number, which is odd. -/
def overflow : ℚ := (2 ^ 53 - 1 / 2) * 2 ^ maxExponent

/-- What lies in the interval of a number is below the upper end of the last interval. -/
theorem RoundsTo.lt_overflow (h : RoundsTo q m e) (canonical : IsCanonical m e) :
    q < overflow := by
  have last := h.lt_last canonical
  rw [div_lt_iff₀ (by positivity)] at last
  have power : (2 : ℚ) ^ e ≤ 2 ^ maxExponent := zpow_le_zpow_right₀ one_le_two canonical.high
  exact last.trans_le (mul_le_mul_of_nonneg_left power (by norm_num))

/-- What would be rounded to a number with too large an exponent is not. -/
theorem RoundsTo.overflow_le (h : RoundsTo q m e) (above : maxExponent < e) (high : 2 ^ 52 ≤ m) :
    overflow ≤ q := by
  have far := h.le_of_high (lt_trans (by decide) above) high
  rw [le_div_iff₀ (by positivity)] at far
  have power : (2 : ℚ) ^ (maxExponent + 1) ≤ 2 ^ e := zpow_le_zpow_right₀ one_le_two above
  calc overflow = (2 ^ 52 - 1 / 4) * 2 ^ (maxExponent + 1) := by
        rw [overflow, zpow_add_one₀ two_ne_zero]
        ring
    _ ≤ (2 ^ 52 - 1 / 4) * 2 ^ e := mul_le_mul_of_nonneg_left power (by norm_num)
    _ ≤ q := far

end

/-! ## Quotients -/

theorem ofMantissa_carry (negative : Bool) (e : Int) :
    ofMantissa negative (2 ^ 53) e = ofMantissa negative (2 ^ 52) (e + 1) := by
  have noCarry : (2 : Nat) ^ 52 ≠ powerOfTwo 53 := by decide
  simp only [ofMantissa, if_neg noCarry]
  rfl

/-- A mantissa without a carry is that of a number, unless the exponent is too large. -/
theorem ofMantissa_cases (negative : Bool) {m : Nat} {e : Int} (short : m < 2 ^ 53)
    (low : minExponent ≤ e) (least : e = minExponent ∨ 2 ^ 52 ≤ m) :
    (ofMantissa negative m e = .finite negative m e ∧ IsCanonical m e) ∨
      (ofMantissa negative m e = .infinite negative ∧ maxExponent < e ∧ 2 ^ 52 ≤ m) := by
  have noCarry : m ≠ powerOfTwo 53 := short.ne
  simp only [ofMantissa, if_neg noCarry]
  split
  · rename_i above
    exact .inr ⟨rfl, above, least.resolve_left (lt_trans (by decide) above).ne'⟩
  · rename_i high
    refine .inl ⟨?_, short, low, not_lt.1 high, least⟩
    split
    · rename_i nothing
      rw [nothing, zero, least.resolve_right (by rw [nothing]; decide)]
    · rfl

/-- A real is rounded to the number in whose interval it lies, or to an infinity from the end of
the last interval. -/
def IsRoundedTo (q : ℚ) (negative : Bool) (x : Binary64) : Prop :=
  (∃ m e, x = .finite negative m e ∧ IsCanonical m e ∧ RoundsTo q m e) ∨
    (x = .infinite negative ∧ overflow ≤ q)

theorem RoundsTo.ofMantissa {q : ℚ} {m : Nat} {e : Int} (rounds : RoundsTo q m e)
    (negative : Bool) (short : m < 2 ^ 53) (low : minExponent ≤ e)
    (least : e = minExponent ∨ 2 ^ 52 ≤ m) : IsRoundedTo q negative (ofMantissa negative m e) := by
  rcases ofMantissa_cases negative short low least with ⟨finite, canonical⟩ | ⟨infinite, above⟩
  · exact .inl ⟨m, e, finite, canonical, rounds⟩
  · exact .inr ⟨infinite, rounds.overflow_le above.1 above.2⟩

/-- What is rounded up to 54 bits is rounded to the power of two. -/
theorem IsRounded.carry {q : ℚ} {e : Int} (h : IsRounded (q / 2 ^ e) (2 ^ 53))
    (short : q / 2 ^ e < 2 ^ 53) (low : minExponent ≤ e) : RoundsTo q (2 ^ 52) (e + 1) := by
  have lower := h.lower
  have half := div_two_zpow_sub_one q (e + 1)
  have gap : gapBelow (2 ^ 52) (e + 1) = 1 / 4 := if_pos ⟨rfl, by omega⟩
  rw [Int.add_sub_cancel] at half
  refine ⟨?_, ?_, fun _ => by decide⟩
  · rw [gap]
    push_cast at lower ⊢
    linarith
  · push_cast
    linarith

/-- The number that is computed for a quotient is the one that it is rounded to. -/
theorem ofRatio_cases (negative : Bool) {num den : Nat} (nonzero : num ≠ 0) (pos : 0 < den) :
    IsRoundedTo (num / den) negative (ofRatio negative num den) := by
  obtain ⟨short, least⟩ := quotientExponent_spec nonzero pos
  have low := minExponent_le_quotientExponent num den
  have rounded := isRounded_roundQuotient (scaled num den (quotientExponent num den)).1
    (scaled_pos num pos (quotientExponent num den))
  rw [scaled_div] at rounded
  rw [ofRatio, if_neg nonzero]
  dsimp only
  generalize quotientExponent num den = e at *
  generalize roundQuotient _ _ = r at *
  generalize (num : ℚ) / den = q at *
  have lower := rounded.lower
  have upper := rounded.upper
  rcases Nat.lt_or_ge r (2 ^ 53) with small | large
  · refine (rounded.roundsTo least).ofMantissa negative small low
      (least.imp_right fun reaches => ?_)
    have close : (2 ^ 52 : Nat) < (r : ℚ) + 1 := by push_cast; linarith
    exact Nat.lt_succ_iff.1 (by exact_mod_cast close)
  · -- Only a carry gives more than 53 bits.
    have top : r = 2 ^ 53 := by
      have close : (r : ℚ) < (2 ^ 53 : Nat) + 1 := by push_cast; linarith
      exact le_antisymm (Nat.lt_succ_iff.1 (by exact_mod_cast close)) large
    rw [top] at rounded ⊢
    rw [ofMantissa_carry]
    exact (rounded.carry short low).ofMantissa negative (by decide) (by omega) (.inr le_rfl)

/-- A quotient is rounded to a number exactly if it lies in the interval of the number. -/
theorem ofRatio_eq_iff (negative : Bool) {num den m : Nat} {e : Int} (nonzero : num ≠ 0)
    (pos : 0 < den) : ofRatio negative num den = .finite negative m e ↔
      IsCanonical m e ∧ RoundsTo (num / den) m e := by
  rcases ofRatio_cases negative nonzero pos with ⟨m', e', finite, canonical', rounds'⟩ | infinite
  · rw [finite]
    constructor
    · intro same
      cases same
      exact ⟨canonical', rounds'⟩
    · rintro ⟨canonical, rounds⟩
      obtain ⟨rfl, rfl⟩ := rounds.unique rounds' canonical canonical'
      rfl
  · rw [infinite.1]
    constructor
    · intro same
      cases same
    · rintro ⟨canonical, rounds⟩
      exact absurd (rounds.lt_overflow canonical) infinite.2.not_gt

/-! ## Neighbours -/

section

variable {q : ℚ} {m n : Nat} {e f : Int}

/-- A number with a higher exponent is a multiple of the lower power. -/
theorem exists_multiple (n : Nat) (le : e ≤ f) : ∃ k : Nat, (n : ℚ) * 2 ^ f = k * 2 ^ e := by
  refine ⟨n * 2 ^ (f - e).toNat, ?_⟩
  have power : (2 : ℚ) ^ f = 2 ^ (f - e).toNat * 2 ^ e := by
    rw [← zpow_natCast, ← zpow_add₀ two_ne_zero]
    congr
    omega
  rw [power]
  push_cast
  ring

/-- A number with a smaller exponent lies below all numbers with a mantissa of 53 bits. -/
theorem le_of_exponent_lt (canonical : IsCanonical n f) (less : f < e) :
    (n : ℚ) * 2 ^ f ≤ (2 ^ 52 - 1 / 2) * 2 ^ e := by
  have short : (n : ℚ) ≤ 2 ^ 53 - 1 := by
    have : (n : ℚ) + 1 ≤ 2 ^ 53 := by exact_mod_cast canonical.short
    linarith
  have power : (2 : ℚ) ^ f ≤ 2 ^ (e - 1) := zpow_le_zpow_right₀ one_le_two (by omega)
  calc (n : ℚ) * 2 ^ f ≤ (2 ^ 53 - 1) * 2 ^ (e - 1) := by gcongr
    _ = (2 ^ 52 - 1 / 2) * 2 ^ e := by
      rw [zpow_sub_one₀ two_ne_zero]
      ring

/-- The next number above one is a unit of its mantissa away, or more. -/
theorem add_le_of_lt (canonical : IsCanonical m e) (canonical' : IsCanonical n f)
    (less : (m : ℚ) * 2 ^ e < n * 2 ^ f) : (m + 1 : ℚ) * 2 ^ e ≤ n * 2 ^ f := by
  have pos : (0 : ℚ) < 2 ^ e := by positivity
  rcases le_or_gt e f with le | gt
  · obtain ⟨k, multiple⟩ := exists_multiple n le
    rw [multiple] at less ⊢
    have more : m < k := by exact_mod_cast lt_of_mul_lt_mul_right less pos.le
    exact mul_le_mul_of_nonneg_right (by exact_mod_cast more) pos.le
  · have high : 2 ^ 52 ≤ m := canonical.least.resolve_left (canonical'.low.trans_lt gt).ne'
    have high : (2 : ℚ) ^ 52 ≤ m := by exact_mod_cast high
    have below := le_of_exponent_lt canonical' gt
    nlinarith

/-- The next number below one is twice as far away as its interval reaches, or more. -/
theorem le_sub_of_lt (canonical : IsCanonical m e) (canonical' : IsCanonical n f)
    (less : (n : ℚ) * 2 ^ f < m * 2 ^ e) : (n : ℚ) * 2 ^ f ≤ (m - 2 * gapBelow m e) * 2 ^ e := by
  have pos : (0 : ℚ) < 2 ^ e := by positivity
  rcases le_or_gt e f with le | gt
  · obtain ⟨k, multiple⟩ := exists_multiple n le
    rw [multiple] at less ⊢
    have fewer : k < m := by exact_mod_cast lt_of_mul_lt_mul_right less pos.le
    have fewer : (k : ℚ) + 1 ≤ m := by exact_mod_cast fewer
    have gap := gapBelow_le m e
    exact mul_le_mul_of_nonneg_right (by linarith) pos.le
  · have least : minExponent < e := canonical'.low.trans_lt gt
    have high : 2 ^ 52 ≤ m := canonical.least.resolve_left least.ne'
    refine (le_of_exponent_lt canonical' gt).trans (mul_le_mul_of_nonneg_right ?_ pos.le)
    unfold gapBelow
    split
    · rename_i closer
      rw [closer.1]
      push_cast
      linarith
    · rename_i other
      have more : 2 ^ 52 + 1 ≤ m := Nat.lt_of_le_of_ne high fun same => other ⟨same.symm, least⟩
      have more : (2 : ℚ) ^ 52 + 1 ≤ m := by exact_mod_cast more
      linarith

/-- No number is nearer to a real than the one in whose interval it lies, and another one is as near
only if the mantissa is even. -/
theorem RoundsTo.abs_sub_le (h : RoundsTo q m e) (canonical : IsCanonical m e)
    (canonical' : IsCanonical n f) : |(m : ℚ) * 2 ^ e - q| ≤ |n * 2 ^ f - q| ∧
      (|(m : ℚ) * 2 ^ e - q| = |n * 2 ^ f - q| → (n : ℚ) * 2 ^ f = m * 2 ^ e ∨ m % 2 = 0) := by
  have pos : (0 : ℚ) < 2 ^ e := by positivity
  have lower := h.lower
  have upper := h.upper
  rw [le_div_iff₀ pos] at lower
  rw [div_le_iff₀ pos] at upper
  rcases lt_trichotomy ((n : ℚ) * 2 ^ f) (m * 2 ^ e) with below | same | above
  · have far := le_sub_of_lt canonical canonical' below
    have gap := mul_pos (gapBelow_pos m e) pos
    rw [abs_of_neg (sub_neg_of_lt (by linarith : (n : ℚ) * 2 ^ f < q))]
    rcases le_or_gt q (m * 2 ^ e) with le | gt
    · rw [abs_of_nonneg (sub_nonneg_of_le le)]
      refine ⟨by linarith, fun tie => .inr (h.even (.inl ?_))⟩
      rw [div_eq_iff pos.ne']
      linarith
    · rw [abs_of_neg (sub_neg_of_lt gt)]
      exact ⟨by linarith, fun tie => by linarith⟩
  · exact ⟨by rw [same], fun _ => .inl same⟩
  · have far := add_le_of_lt canonical canonical' above
    rw [abs_of_pos (sub_pos_of_lt (by linarith : q < (n : ℚ) * 2 ^ f))]
    rcases le_or_gt ((m : ℚ) * 2 ^ e) q with le | gt
    · rw [abs_of_nonpos (sub_nonpos_of_le le)]
      refine ⟨by linarith, fun tie => .inr (h.even (.inr ?_))⟩
      rw [div_eq_iff pos.ne']
      linarith
    · rw [abs_of_pos (sub_pos_of_lt gt)]
      exact ⟨by linarith, fun tie => by linarith⟩

end

/-! ## Nearest numbers -/

def IsFinite : Binary64 → Prop
  | .finite _ mantissa exponent => IsCanonical mantissa exponent
  | _ => False

def value : Binary64 → ℚ
  | .finite negative mantissa exponent => (if negative then -1 else 1) * (mantissa * 2 ^ exponent)
  | _ => 0

def IsEven : Binary64 → Prop
  | .finite _ mantissa _ => mantissa % 2 = 0
  | _ => False

/-- A finite number is nearest to a real, and it is even if another one is as near. -/
structure IsNearest (q : ℚ) (x : Binary64) : Prop where
  finite : x.IsFinite
  nearest : ∀ y : Binary64, y.IsFinite → |x.value - q| ≤ |y.value - q|
  even : ∀ y : Binary64, y.IsFinite → |x.value - q| = |y.value - q| → y.value = x.value ∨ x.IsEven

/-- A number of the other sign is as near only if the number is zero or the real is, which lies in
the interval of zero only. -/
theorem RoundsTo.abs_sub_le_add {q : ℚ} {m n : Nat} {e f : Int} (h : RoundsTo q m e)
    (nonneg : 0 ≤ q) (canonical : IsCanonical m e) (canonical' : IsCanonical n f) :
    |(m : ℚ) * 2 ^ e - q| ≤ n * 2 ^ f + q ∧
      (|(m : ℚ) * 2 ^ e - q| = n * 2 ^ f + q → m % 2 = 0) := by
  obtain ⟨nearest, even⟩ := h.abs_sub_le canonical canonical'
  have pos : (0 : ℚ) ≤ n * 2 ^ f := by positivity
  have other : |(n : ℚ) * 2 ^ f - q| ≤ n * 2 ^ f + q := abs_le.2 ⟨by linarith, by linarith⟩
  refine ⟨nearest.trans other, fun tie => ?_⟩
  rcases even (le_antisymm nearest (tie ▸ other)) with same | even
  · have zero : m = 0 := by
      rw [same] at tie
      rcases le_or_gt q (m * 2 ^ e) with le | gt
      · rw [abs_of_nonneg (sub_nonneg_of_le le)] at tie
        have none : q = 0 := by linarith
        have lower := h.isRounded.lower
        rw [none, zero_div] at lower
        have small : (m : ℚ) < 1 := by linarith
        exact Nat.lt_one_iff.1 (by exact_mod_cast small)
      · rw [abs_of_neg (sub_neg_of_lt gt)] at tie
        have product : (m : ℚ) * 2 ^ e = 0 := by linarith
        exact_mod_cast (mul_eq_zero.1 product).resolve_right (by positivity)
    rw [zero]
  · exact even

/-- A number is nearest to the reals in its interval. -/
theorem RoundsTo.isNearest {q : ℚ} {m : Nat} {e : Int} (h : RoundsTo q m e) (nonneg : 0 ≤ q)
    (canonical : IsCanonical m e) (negative : Bool) :
    IsNearest ((if negative then -1 else 1) * q) (.finite negative m e) := by
  have each (y : Binary64) (finite : y.IsFinite) :
      |(value (.finite negative m e)) - (if negative then -1 else 1) * q| ≤
          |y.value - (if negative then -1 else 1) * q| ∧
        (|(value (.finite negative m e)) - (if negative then -1 else 1) * q| =
            |y.value - (if negative then -1 else 1) * q| →
          y.value = value (.finite negative m e) ∨ m % 2 = 0) := by
    cases y with
    | finite negative' n f =>
      obtain ⟨nearest, even⟩ := h.abs_sub_le canonical finite
      obtain ⟨opposite, even'⟩ := h.abs_sub_le_add nonneg canonical finite
      have sum : (0 : ℚ) ≤ n * 2 ^ f + q := by positivity
      have flip (a b : ℚ) : |-a - -b| = |a - b| := by rw [neg_sub_neg, abs_sub_comm]
      have below : |-((n : ℚ) * 2 ^ f) - q| = n * 2 ^ f + q := by
        rw [← neg_add', abs_neg, abs_of_nonneg sum]
      have above : |(n : ℚ) * 2 ^ f - -q| = n * 2 ^ f + q := by
        rw [sub_neg_eq_add, abs_of_nonneg sum]
      simp only [value]
      cases negative <;> cases negative' <;>
        simp only [Bool.false_eq_true, ↓reduceIte, one_mul, neg_one_mul, flip, below, above,
          neg_inj]
      · exact ⟨nearest, even⟩
      · exact ⟨opposite, fun tie => .inr (even' tie)⟩
      · exact ⟨opposite, fun tie => .inr (even' tie)⟩
      · exact ⟨nearest, even⟩
    | infinite => cases finite
    | nan => cases finite
  exact ⟨canonical, fun y finite => (each y finite).1, fun y finite => (each y finite).2⟩

/-! ## Integers -/

theorem isCanonical_zero : IsCanonical 0 minExponent :=
  ⟨by decide, le_rfl, by decide, .inl rfl⟩

/-- An integer is rounded to the number in whose interval it lies, and to none from the end of the
last interval. -/
theorem ofInt?_cases (n : Int) :
    (∃ m e, ofInt? n = some (.finite (n < 0) m e) ∧ IsCanonical m e ∧
      RoundsTo n.natAbs m e) ∨ (ofInt? n = none ∧ overflow ≤ n.natAbs) := by
  unfold ofInt?
  by_cases zero : n.natAbs = 0
  · refine .inl ⟨0, minExponent, ?_, isCanonical_zero, ?_⟩
    · rw [zero, ofRatio, if_pos rfl]
      rfl
    · simpa [zero] using roundsTo_self 0 minExponent
  · rcases ofRatio_cases (n < 0) zero one_pos with ⟨m, e, finite, canonical, rounds⟩ | infinite
    · rw [finite]
      exact .inl ⟨m, e, rfl, canonical, by simpa using rounds⟩
    · rw [infinite.1]
      exact .inr ⟨rfl, by simpa using infinite.2⟩

/-- The number of an integer is nearest to it. -/
theorem isNearest_of_ofInt? {n : Int} {x : Binary64} (h : ofInt? n = some x) : IsNearest n x := by
  rcases ofInt?_cases n with ⟨m, e, finite, canonical, rounds⟩ | ⟨none, -⟩
  · rw [finite] at h
    cases h
    have near := rounds.isNearest (Nat.cast_nonneg _) canonical (n < 0)
    have signed : (if decide (n < 0) then -1 else 1) * (n.natAbs : ℚ) = n := by
      rw [Nat.cast_natAbs]
      rcases lt_or_ge n 0 with negative | nonneg
      · rw [if_pos (decide_eq_true negative), abs_of_neg negative, Int.cast_neg, neg_one_mul,
          neg_neg]
      · rw [if_neg (by simpa using nonneg), abs_of_nonneg nonneg, one_mul]
    rwa [signed] at near
  · rw [none] at h
    cases h

theorem cast_powerOfTwo (n : Nat) : (powerOfTwo n : ℚ) = 2 ^ n := Nat.cast_pow 2 n

theorem overflow_eq : overflow = (powerOfTwo 1024 - powerOfTwo 970 : Nat) := by
  have power : (2 : ℚ) ^ maxExponent = powerOfTwo 970 * 2 := by
    rw [cast_powerOfTwo, ← pow_succ, ← zpow_natCast]
    rfl
  rw [Nat.cast_sub (powerOfTwo_le (by decide)), overflow, power,
    show 1024 = 54 + 970 from rfl, powerOfTwo_add, Nat.cast_mul, cast_powerOfTwo 54]
  ring

/-- An integer has a nearest number that is finite if it is below the upper end of the last
interval. -/
theorem isSome_ofInt?_iff (n : Int) :
    (ofInt? n).isSome ↔ n.natAbs < powerOfTwo 1024 - powerOfTwo 970 := by
  have limit : n.natAbs < powerOfTwo 1024 - powerOfTwo 970 ↔ (n.natAbs : ℚ) < overflow := by
    rw [overflow_eq, Nat.cast_lt]
  rw [limit]
  rcases ofInt?_cases n with ⟨m, e, finite, canonical, rounds⟩ | ⟨none, large⟩
  · rw [finite]
    exact iff_of_true rfl (rounds.lt_overflow canonical)
  · rw [none]
    exact iff_of_false nofun large.not_gt

end SchemaClasses.Binary64
