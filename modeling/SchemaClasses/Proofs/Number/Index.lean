import Mathlib.Data.List.Basic
import Mathlib.Data.Nat.Digits.Defs
import SchemaClasses.Proofs.Outcome
import SchemaClasses.Number.Decimal

/-!
# Reading indexes

Decimal digits of any script write a number in base ten. A text of digits is read as the number that
it writes, as long as it has no more digits than an integer may have. Digits of other kinds, such as
superscripts, write no number and are not read.

## Main definitions

* `Text.Writes`: the number that a text of decimal digits writes.
* `Text.IsUnreadable`: a text of digits that is read as no number.

## Main statements

* `readIndex_cases`: a text of digits is read as the number that it writes, unless it is unreadable.
* `readIndex_toString`: a number that can be written is read again.
-/

namespace SchemaClasses

namespace Text

/-! ## Digits and other characters -/

/-- No character lies in two sets the ranges of which do not meet. -/
theorem CodePoints.contains_eq_false {ranges others : CodePoints} {c : Char}
    (apart : ∀ r ∈ ranges, ∀ o ∈ others, r.2 < o.1 ∨ o.2 < r.1) (mem : ranges.contains c) :
    others.contains c = false := by
  grind [CodePoints.contains]

/-- All digits, decimal or not. -/
def digits : CodePoints := decimalZeros.map (fun first => (first, first + 9)) ++ otherDigits

theorem mem_digits_of_isDigit {c : Char} (h : isDigit c) : digits.contains c := by
  rw [isDigit, Bool.or_eq_true, decimalValue?, Option.isSome_map, List.find?_isSome] at h
  simp only [digits, CodePoints.contains, List.any_append, List.any_map, Bool.or_eq_true]
  exact h.imp (fun ⟨first, mem, inRange⟩ => List.any_eq_true.2 ⟨first, mem, inRange⟩) id

theorem isBlank_of_isDigit {c : Char} (h : isDigit c) : isBlank c = false :=
  CodePoints.contains_eq_false (by decide +kernel) (mem_digits_of_isDigit h)

theorem isDigit_of_decimalValue? {c : Char} {value : Nat} (h : decimalValue? c = some value) :
    isDigit c := by
  simp [isDigit, h]

theorem decimalValue?_lt {c : Char} {value : Nat} (h : decimalValue? c = some value) :
    value < 10 := by
  obtain ⟨first, found, rfl⟩ := Option.map_eq_some_iff.1 h
  have inRange := List.find?_some found
  grind

theorem trimBlanks_of_forall {text : List Char} (h : ∀ c ∈ text, isBlank c = false) :
    trimBlanks text = text := by
  have keeps {chars : List Char} (sub : chars ⊆ text) : chars.dropWhile isBlank = chars := by
    cases chars with
    | nil => rfl
    | cons c rest => simp [h c (sub List.mem_cons_self)]
  rw [trimBlanks, keeps (List.Subset.refl _), keeps (by simp), List.reverse_reverse]

/-! ## Texts of digits -/

/-- A text of decimal digits writes a number in base ten, the first digit counting most. -/
def Writes (text : List Char) (n : Nat) : Prop :=
  text ≠ [] ∧ ∃ values : List Nat, text.map decimalValue? = values.map some ∧
    Nat.ofDigits 10 values.reverse = n

/-- A text of digits that is read as no number: not all of the digits are decimal, or they are more
than an integer may have. -/
def IsUnreadable (text : List Char) : Prop :=
  text ≠ [] ∧ (∀ c ∈ text, isDigit c) ∧
    ((∃ c ∈ text, decimalValue? c = none) ∨ maxIntegerDigits < text.length)

section

variable {text : List Char} {n : Nat}

theorem Writes.unique {m : Nat} (h : Writes text n) (h' : Writes text m) : n = m := by
  obtain ⟨-, values, eq, rfl⟩ := h
  obtain ⟨-, values', eq', rfl⟩ := h'
  have same : values = values' :=
    List.map_injective_iff.2 (Option.some_injective Nat) (eq.symm.trans eq')
  rw [same]

theorem Writes.forall_isDigit (h : Writes text n) : ∀ c ∈ text, isDigit c := by
  obtain ⟨-, values, eq, -⟩ := h
  intro c mem
  obtain ⟨value, -, isValue⟩ := List.mem_map.1 (eq ▸ List.mem_map_of_mem mem)
  exact isDigit_of_decimalValue? isValue.symm

end

theorem decimalValue?_digitChar :
    ∀ digit < 10, decimalValue? (Nat.digitChar digit) = some digit := by decide

/-- The decimal digits of a number write it. -/
theorem writes_toDigits (n : Nat) : Writes (Nat.toDigits 10 n) n := by
  refine ⟨Nat.toDigits_ne_nil, ?_⟩
  induction n using Nat.strongRecOn with
  | ind n ih =>
    by_cases small : n < 10
    · rw [Nat.toDigits_of_lt_base small]
      exact ⟨[n], by simp [decimalValue?_digitChar n small], Nat.ofDigits_singleton⟩
    · have large : 10 ≤ n := Nat.not_lt.1 small
      have last : n % 10 < 10 := Nat.mod_lt n (by decide)
      obtain ⟨values, digits, number⟩ := ih (n / 10) (by omega)
      rw [Nat.toDigits_of_base_le (by decide) large]
      refine ⟨values ++ [n % 10], by simp [digits, decimalValue?_digitChar _ last], ?_⟩
      rw [List.reverse_append, List.reverse_singleton, List.singleton_append, Nat.ofDigits_cons,
        number]
      exact Nat.mod_add_div n 10

theorem writes_toString (n : Nat) : Writes (toString n).toList n := by
  rw [Nat.toString_eq_repr, Nat.toList_repr]
  exact writes_toDigits n

end Text

section

open Text

variable {text : List Char} {n : Nat}

theorem digitValue?_ten (c : Char) : digitValue? 10 c = decimalValue? c := by
  cases found : decimalValue? c with
  | some value => simp [digitValue?, found, decimalValue?_lt found]
  | none => grind [digitValue?]

/-- Digits without underscores between them are read one by one. -/
theorem digitValues?_ten {values : List Nat} (nonempty : text ≠ []) (plain : '_' ∉ text) :
    digitValues? 10 text = some values ↔ text.map decimalValue? = values.map some := by
  fun_induction digitValues? 10 text generalizing values with
  | case1 => exact absurd rfl nonempty
  | case2 c =>
    simp only [digitValue?_ten, List.map_cons, List.map_nil]
    cases values <;> cases decimalValue? c <;> grind [List.map_eq_nil_iff]
  | case3 c rest ih => simp at plain
  | case4 c rest more noUnderscore ih =>
    have ih (others : List Nat) := @ih others (by simpa using more) (by grind)
    rw [digitValue?_ten]
    cases values <;> simp [Option.bind_eq_some_iff, ih]

theorem underscore_notMem (isText : ∀ c ∈ text, isDigit c) : '_' ∉ text :=
  fun mem => absurd (isText '_' mem) (by decide +kernel)

/-- An index is read as a number in base ten, or fails for its digits or their count. -/
theorem readIndex_eq (nonempty : text ≠ []) (isText : ∀ c ∈ text, isDigit c) :
    readIndex text =
      match digitValues? 10 text with
      | none => .error (.invalidValue (.notInteger (String.ofList text) 10))
      | some values =>
        if maxIntegerDigits < values.length then
          .error (.invalidValue (.tooManyDigits values.length))
        else .ok (Nat.ofDigits 10 values.reverse) := by
  have trimmed : trimBlanks text = text :=
    trimBlanks_of_forall fun c mem => isBlank_of_isDigit (isText c mem)
  have unsigned : takeSign text = (false, text) := by
    fun_cases takeSign text
    · exact absurd (isText '-' List.mem_cons_self) (by decide +kernel)
    · exact absurd (isText '+' List.mem_cons_self) (by decide +kernel)
    · rfl
  have unmarked : dropBaseMarker 10 text = text := by
    fun_cases dropBaseMarker 10 text <;> simp_all
  have value (values : List Nat) :
      values.foldl (fun number value => 10 * number + value) 0 =
        Nat.ofDigits 10 values.reverse := by
    simp [Nat.ofDigits_eq_foldr, Nat.add_comm]
  cases read : digitValues? 10 text <;>
    simp only [readIndex, readInteger, trimmed, unsigned, unmarked, read, value]
  · rfl
  · grind [Except.map]

theorem length_of_writes {values : List Nat} (eq : text.map decimalValue? = values.map some) :
    values.length = text.length := by
  simpa using (congrArg List.length eq).symm

/-- Decimal digits are all the digits that have values. -/
theorem forall_decimal_iff :
    (∀ c ∈ text, decimalValue? c ≠ none) ↔
      ∃ values : List Nat, text.map decimalValue? = values.map some := by
  induction text with
  | nil => exact ⟨fun _ => ⟨[], rfl⟩, fun _ => by simp⟩
  | cons c rest ih =>
    rw [List.forall_mem_cons, ih]
    constructor
    · rintro ⟨decimal, values, eq⟩
      obtain ⟨value, first⟩ := Option.ne_none_iff_exists'.1 decimal
      exact ⟨value :: values, by simp [first, eq]⟩
    · rintro ⟨values, eq⟩
      cases values <;> grind

/-- A text of digits is read as the number that it writes, unless it is unreadable. -/
theorem readIndex_cases (nonempty : text ≠ []) (isText : ∀ c ∈ text, isDigit c) :
    (¬IsUnreadable text ∧ ∃ n, readIndex text = .ok n ∧ Writes text n) ∨
      (IsUnreadable text ∧ ∃ problem, readIndex text = .error (.invalidValue problem)) := by
  have plain := underscore_notMem isText
  rw [readIndex_eq nonempty isText]
  cases read : digitValues? 10 text with
  | none =>
    refine .inr ⟨⟨nonempty, isText, .inl ?_⟩, _, rfl⟩
    by_contra! decimal
    obtain ⟨values, eq⟩ := forall_decimal_iff.1 decimal
    simp [(digitValues?_ten nonempty plain).2 eq] at read
  | some values =>
    have eq := (digitValues?_ten nonempty plain).1 read
    have decimal : ∀ c ∈ text, decimalValue? c ≠ none := forall_decimal_iff.2 ⟨values, eq⟩
    simp only [length_of_writes eq]
    by_cases long : maxIntegerDigits < text.length
    · exact .inr ⟨⟨nonempty, isText, .inr long⟩, _, if_pos long⟩
    · exact .inl ⟨by grind [IsUnreadable], _, if_neg long, nonempty, values, eq, rfl⟩

theorem length_toString_le {count : Nat} (pos : 0 < count) (h : n < Binary64.powerOfTen count) :
    (toString n).toList.length ≤ count := by
  rw [Nat.toString_eq_repr, Nat.toList_repr]
  exact (Nat.length_toDigits_le_iff (b := 10) (by decide) pos).2 h

theorem not_isWritableInteger {n : Nat} (long : Binary64.powerOfTen maxIntegerDigits ≤ n) :
    ¬isWritableInteger n := by
  intro writable
  have short := of_decide_eq_true writable
  rw [Int.natAbs_natCast] at short
  exact Nat.not_lt.2 long short

/-- A number that can be written is read again. -/
theorem readIndex_toString (h : isWritableInteger n) : readIndex (toString n).toList = .ok n := by
  have writes := writes_toString n
  obtain ⟨nonempty, values, decimal, -⟩ := id writes
  rcases readIndex_cases nonempty writes.forall_isDigit with
    ⟨-, m, read, writes'⟩ | ⟨⟨-, -, other | long⟩, -⟩
  · rw [read, writes.unique writes']
  · obtain ⟨c, mem, noValue⟩ := other
    exact absurd noValue (forall_decimal_iff.2 ⟨values, decimal⟩ c mem)
  · have short := length_toString_le (by decide) (of_decide_eq_true h)
    exact absurd long (Nat.not_lt.2 short)

end

end SchemaClasses
