import SchemaClasses.Emit.Check
import SchemaClasses.Proofs.Number.Shortest

/-!
# Literals of numbers in Java

A literal of digits is of the type of 32-bit integers, or with a letter L after the digits, of that
of 64-bit integers; it is refused beyond the range of its type. One with a point or an exponent is
of the type of floating-point numbers. The operands of guards are marked by their size, but the
default values of properties by the type of the property alone, and nothing looks at the range of
that type.

## Main definitions

* `Java.numeral?`: what a numeric literal denotes.
* `Java.Denotes`: a literal denotes an integer as a value of a type.
* `Java.Settles`: a step writes a right literal, or refuses to.

## Main statements

* `Java.settles_iff`: the integers that are written rightly or refused, as an operand and as a
  default value.
-/

namespace SchemaClasses.Java

inductive Numeral where
  | int (n : Int)
  | long (n : Int)
  | double (x : Binary64)
deriving DecidableEq

def FitsBits (bits : Nat) (n : Int) : Prop := -2 ^ (bits - 1) ≤ n ∧ n < 2 ^ (bits - 1)

instance (bits : Nat) (n : Int) : Decidable (FitsBits bits n) := inferInstanceAs (Decidable (_ ∧ _))

/-- Digits in base ten: a zero before others would be the mark of base eight. -/
def isDecimal (digits : List Char) : Bool :=
  !digits.isEmpty && (digits.head? ≠ some '0' || digits.length = 1)

def signed (negative : Bool) (magnitude : Nat) : Int := if negative then -magnitude else magnitude

/-- The number that a floating-point literal denotes. It is refused if its number is too large, or
is rounded to zero without being zero. -/
def double? (negative : Bool) (magnitude : List Char) : Option Numeral :=
  match decimalNumeral? negative magnitude with
  | some (.finite sign m e) =>
    let shown := magnitude.takeWhile fun c => c ≠ 'e' && c ≠ 'E'
    if m = 0 && !shown.all (fun c => c = '0' || c = '.') then none
    else some (.double (.finite sign m e))
  | _ => none

/-- What a numeric literal denotes, with a sign before it. An integer out of the range of its type
is refused. -/
def numeral? (source : List Char) : Option Numeral :=
  let (negative, magnitude) := takeSign source
  let digits := magnitude.takeWhile Char.isDigit
  let n := signed negative (digitsValue digits)
  match magnitude.dropWhile Char.isDigit with
  | [] => if isDecimal digits && FitsBits 32 n then some (.int n) else none
  | ['L'] => if isDecimal digits && FitsBits 64 n then some (.long n) else none
  | _ => double? negative magnitude

/-! ## Integers -/

theorem toList_toString (n : Int) : (toString n).toList =
    (if n < 0 then ['-'] else []) ++ Nat.toDigits 10 n.natAbs := by
  cases n with
  | ofNat k =>
    have nonneg : ¬Int.ofNat k < 0 := by simp
    rw [if_neg nonneg, List.nil_append]
    exact Nat.toList_repr
  | negSucc k =>
    rw [if_pos (Int.negSucc_lt_zero k)]
    simp [toString, Int.repr]

theorem head?_toDigits {n : Nat} (pos : 0 < n) : (Nat.toDigits 10 n).head? ≠ some '0' := by
  induction n using Nat.strongRecOn with
  | ind n ih =>
    by_cases small : n < 10
    · rw [Nat.toDigits_of_lt_base small]
      exact (by decide : ∀ n < 10, 0 < n → [n.digitChar].head? ≠ some '0') n small pos
    · have large : 10 ≤ n := Nat.not_lt.1 small
      rw [Nat.toDigits_of_base_le (by decide) large,
        List.head?_append_of_ne_nil _ Nat.toDigits_ne_nil]
      exact ih (n / 10) (by omega) (by omega)

theorem isDecimal_toDigits (n : Nat) : isDecimal (Nat.toDigits 10 n) := by
  rcases Nat.eq_zero_or_pos n with rfl | pos
  · decide
  · simp [isDecimal, Nat.toDigits_ne_nil, head?_toDigits pos]

/-- A sign before a magnitude that begins with a digit. -/
theorem takeSign_append (negative : Bool) {first : Char} (digit : first.isDigit)
    (rest : List Char) : takeSign ((if negative then ['-'] else []) ++ first :: rest) =
      (negative, first :: rest) := by
  cases negative with
  | false =>
    change takeSign (first :: rest) = _
    unfold takeSign
    split
    · rename_i same
      rw [(List.cons.inj same).1] at digit
      exact absurd digit (by decide)
    · rename_i same
      rw [(List.cons.inj same).1] at digit
      exact absurd digit (by decide)
    · rfl
  | true => rfl

/-- The sign and the digits of an integer, what follows them, and the integer that they write. -/
theorem parts_of_toString (n : Int) {rest : List Char} (other : ∀ c ∈ rest.head?, ¬c.isDigit) :
    takeSign ((toString n).toList ++ rest) =
        (decide (n < 0), Nat.toDigits 10 n.natAbs ++ rest) ∧
      ((Nat.toDigits 10 n.natAbs ++ rest).takeWhile Char.isDigit = Nat.toDigits 10 n.natAbs ∧
        (Nat.toDigits 10 n.natAbs ++ rest).dropWhile Char.isDigit = rest) ∧
      signed (n < 0) (digitsValue (Nat.toDigits 10 n.natAbs)) = n := by
  have digits : ∀ c ∈ Nat.toDigits 10 n.natAbs, c.isDigit := fun c => isDigit_of_mem_toDigits
  refine ⟨?_, span_digits rest digits other, ?_⟩
  · rw [toList_toString]
    obtain ⟨first, others, eq⟩ := List.exists_cons_of_ne_nil
      (Nat.toDigits_ne_nil : Nat.toDigits 10 n.natAbs ≠ [])
    rw [eq] at digits ⊢
    have taken := takeSign_append (n < 0) (digits first List.mem_cons_self) (others ++ rest)
    simpa using taken
  · rw [digitsValue_toDigits, signed]
    split <;> rename_i negative <;> simp at negative <;> omega

/-- The literal of an integer without a mark. -/
theorem numeral?_toString (n : Int) :
    numeral? (toString n).toList = if FitsBits 32 n then some (.int n) else none := by
  obtain ⟨sign, ⟨before, after⟩, value⟩ := @parts_of_toString n [] nofun
  simp only [List.append_nil] at sign before after
  simp only [numeral?, sign, before, after, value, isDecimal_toDigits, Bool.true_and,
    decide_eq_true_eq]

/-- The literal of an integer with the mark of the longer type. -/
theorem numeral?_toString_mark (n : Int) :
    numeral? (toString n ++ "L").toList = if FitsBits 64 n then some (.long n) else none := by
  obtain ⟨sign, ⟨before, after⟩, value⟩ := @parts_of_toString n ['L'] (by rintro c ⟨⟩; decide)
  have text : (toString n ++ "L").toList = (toString n).toList ++ ['L'] := String.toList_append
  simp only [text, numeral?, sign, before, after, value, isDecimal_toDigits, Bool.true_and,
    decide_eq_true_eq]

/-! ## Floating-point numbers -/

/-- The written form of a number denotes it. -/
theorem numeral?_text {negative : Bool} {m : Nat} {e : Int} (canonical : Binary64.IsCanonical m e) :
    numeral? (Binary64.finite negative m e).text.toList =
      some (.double (.finite negative m e)) := by
  have text (body : List Char) : (String.ofList (if negative then '-' :: body else body)).toList =
      (if negative then ['-'] else []) ++ body := by
    cases negative <;> simp
  rw [Binary64.text, Binary64.textWith, text]
  by_cases zero : m = 0
  · rw [if_pos zero, zero, canonical.least.resolve_right (by rw [zero]; decide)]
    cases negative <;> decide +kernel
  · rw [if_neg zero]
    have pos := Nat.pos_of_ne_zero zero
    obtain ⟨n, exponent, writes, -⟩ := Binary64.writesValue_magnitudeText m e
    obtain ⟨first, others, mark, rest, eq, digits, isMark⟩ := writes.exists_eq
    have read := Binary64.decimalNumeral?_magnitudeText pos canonical negative
    obtain ⟨-, after⟩ := span_digits (mark :: rest) digits
      (by rintro c ⟨⟩; rcases isMark with rfl | rfl <;> decide)
    have sign := takeSign_append negative (digits first List.mem_cons_self) (others ++ mark :: rest)
    rw [List.cons_append] at eq after
    rw [eq] at read ⊢
    have number : double? negative (first :: (others ++ mark :: rest)) =
        some (.double (.finite negative m e)) := by
      rw [double?, read]
      simp [zero]
    simp only [numeral?, sign, after, number]
    rcases isMark with rfl | rfl <;> rfl

/-! ## Literals that are written -/

/-- A literal denotes an integer as a value of a primitive type: the integer itself by a literal of
the type or of a shorter one, or the number nearest to it. -/
def Denotes : PrimitiveKind → Int → String → Prop
  | .integer, n, literal => numeral? literal.toList = some (.int n)
  | .number, n, literal =>
    ∃ x, numeral? literal.toList = some (.double x) ∧ Binary64.IsNearest n x
  | _, n, literal =>
    numeral? literal.toList = some (.int n) ∨ numeral? literal.toList = some (.long n)

def InRange : PrimitiveKind → Int → Prop
  | .integer, n => FitsBits 32 n
  | .number, n => n.natAbs < Binary64.powerOfTwo 1024 - Binary64.powerOfTwo 970
  | _, n => FitsBits 64 n

/-- A step writes a literal that is right, or fails for want of a form in the language. -/
def Settles (right : String → Prop) (step : Emit String) : Prop :=
  ∀ needs, match step needs with
    | .ok literal _ => right literal
    | .error failure _ =>
      ∃ construct, failure = .unsupportedTarget TargetLanguage.java.name construct

theorem settles_ofExcept_iff {right : String → Prop} {result : Except Failure String} :
    Settles right (Emit.ofExcept result) ↔
      match result with
      | .ok literal => right literal
      | .error failure =>
        ∃ construct, failure = .unsupportedTarget TargetLanguage.java.name construct := by
  cases result with
  | ok literal => exact ⟨fun settles => settles {}, fun holds _ => holds⟩
  | error failure => exact ⟨fun settles => settles {}, fun holds _ => holds⟩

/-- An integer of the longer type can be written. -/
theorem isWritableInteger_of_fitsBits {n : Int} (h : FitsBits 64 n) : isWritableInteger n := by
  have small : n.natAbs ≤ Binary64.powerOfTwo 63 := by
    change n.natAbs ≤ 2 ^ 63
    obtain ⟨low, high⟩ : -2 ^ 63 ≤ n ∧ n < 2 ^ 63 := h
    omega
  have limit : Binary64.powerOfTwo 63 < Binary64.powerOfTen maxIntegerDigits := by decide +kernel
  exact decide_eq_true (small.trans_lt limit)

theorem fitsInt32_iff (n : Int) : fitsInt32 n ↔ FitsBits 32 n := by
  rw [fitsInt32, Bool.and_eq_true, decide_eq_true_eq, decide_eq_true_eq]
  exact and_congr_right fun _ => Int.lt_add_one_iff.symm

theorem FitsBits.long {n : Int} (h : FitsBits 32 n) : FitsBits 64 n := by
  obtain ⟨low, high⟩ : -2 ^ 31 ≤ n ∧ n < 2 ^ 31 := h
  exact ⟨by omega, by omega⟩

/-- An integer that cannot be written is not settled. -/
theorem writable_cases (n : Int) :
    (Value.int n).writable = .ok (.int n) ∨
      (Value.int n).writable = .error (.invalidValue .unwritableInteger) ∧ ¬FitsBits 64 n := by
  unfold Value.writable
  split
  · exact .inl rfl
  · rename_i unwritable
    exact .inr ⟨rfl, fun fits => unwritable (isWritableInteger_of_fitsBits fits)⟩

/-- The literal of an integer without a mark denotes it within the shorter type. -/
theorem denotes_integer_iff (n : Int) : Denotes .integer n (toString n) ↔ FitsBits 32 n := by
  rw [Denotes, numeral?_toString]
  split <;> simp_all

/-- The literal of an integer with a mark denotes it within the longer type. -/
theorem denotes_long_iff (n : Int) : Denotes .long n (toString n ++ "L") ↔ FitsBits 64 n := by
  simp only [Denotes, numeral?_toString_mark]
  split <;> simp_all

/-- A threshold is marked if it has to be. -/
theorem denotes_numberLiteral_iff (n : Int) :
    Denotes .long n (numberLiteral .java (.int n)) ↔ FitsBits 64 n := by
  simp only [numberLiteral]
  split
  · rename_i fits
    have fits := (fitsInt32_iff n).1 fits
    simp only [Denotes, numeral?_toString, if_pos fits, true_or, fits.long]
  · exact denotes_long_iff n

/-- What is written from a value that can be written is settled if it is right. -/
theorem settles_writable_iff {right : String → Prop} {n : Int} {fits : Prop}
    (write : Value → String) (long : fits → FitsBits 64 n)
    (isRight : right (write (.int n)) ↔ fits) :
    Settles right (Emit.ofExcept do return write (← (Value.int n).writable)) ↔ fits := by
  rw [settles_ofExcept_iff]
  rcases writable_cases n with written | ⟨unwritten, large⟩
  · rw [written]
    exact isRight
  · rw [unwritten]
    exact iff_of_false (fun ⟨_, same⟩ => nomatch same) (mt long large)

/-- The operand of a guard is settled within the longer type. -/
theorem settles_operand_iff {kind : ConstraintKind} (noPattern : kind ≠ .pattern) (n : Int)
    (field name : String) (nullable element : Bool) :
    Settles (Denotes .long n) (Emit.ofExcept (operandLiteral .java <$>
      Constraint.guard ⟨kind, .int n⟩ field name nullable element)) ↔ FitsBits 64 n := by
  obtain ⟨guard, given, isKind, isOperand⟩ : ∃ guard : Value → Guard,
      Constraint.guard ⟨kind, .int n⟩ field name nullable element =
          (do return guard (← (Value.int n).writable)) ∧
        (∀ value, (guard value).kind = kind) ∧ ∀ value, (guard value).operand = value :=
    ⟨_, rfl, fun _ => rfl, fun _ => rfl⟩
  have literal : operandLiteral .java (guard (.int n)) = numberLiteral .java (.int n) := by
    rw [operandLiteral, isKind, isOperand]
    cases kind <;> first | rfl | exact absurd rfl noPattern
  simp only [given, map_bind, map_pure]
  refine settles_writable_iff (fun value => operandLiteral .java (guard value)) id ?_
  rw [literal]
  exact denotes_numberLiteral_iff n

/-- The default value of a property of the shorter type is written without a mark. -/
theorem settles_integer_iff (n : Int) :
    Settles (Denotes .integer n) (Emit.ofExcept (plainDefault .java (some .integer) (.int n))) ↔
      FitsBits 32 n :=
  settles_writable_iff Value.plain FitsBits.long (denotes_integer_iff n)

/-- The default value of a property of the longer type is written with its mark. -/
theorem settles_long_iff (n : Int) :
    Settles (Denotes .long n) (Emit.ofExcept (plainDefault .java (some .long) (.int n))) ↔
      FitsBits 64 n :=
  settles_writable_iff (fun value => value.plain ++ "L") id (denotes_long_iff n)

/-- The default value of a property of floating-point type is written as the nearest number, if that
is finite. -/
theorem settles_number_iff (n : Int) :
    Settles (Denotes .number n) (Emit.ofExcept (plainDefault .java (some .number) (.int n))) ↔
      n.natAbs < Binary64.powerOfTwo 1024 - Binary64.powerOfTwo 970 := by
  have asFloat : plainDefault .java (some .number) (.int n) = floatDefault (.int n) := rfl
  rw [settles_ofExcept_iff, asFloat, floatDefault, ← Binary64.isSome_ofInt?_iff]
  cases rounded : Binary64.ofInt? n with
  | some x =>
    have near := Binary64.isNearest_of_ofInt? rounded
    refine iff_of_true ⟨x, ?_, near⟩ rfl
    cases x with
    | finite negative m e => exact numeral?_text near.finite
    | _ => exact near.finite.elim
  | none => exact iff_of_false (fun ⟨_, same⟩ => nomatch same) nofun

/-- Which integers are settled as an operand, and as a default value of a numeric type: those in the
range of the longer type of integers, and those in the range of the type. -/
theorem settles_iff {context : Context} (java : context.language = .java) (n : Int) :
    (∀ (kind : ConstraintKind) (field name : String) (nullable element : Bool), kind ≠ .pattern →
      (Settles (Denotes .long n) (Emit.ofExcept (operandLiteral .java <$>
        Constraint.guard ⟨kind, .int n⟩ field name nullable element)) ↔ InRange .long n)) ∧
    ∀ (kind : PrimitiveKind) (format : Value), kind.isNumeric →
      (Settles (Denotes kind n) (context.defaultValue (.int n) (.primitive kind format)) ↔
        InRange kind n) := by
  refine ⟨fun kind field name nullable element noPattern =>
    settles_operand_iff noPattern n field name nullable element, fun kind format numeric => ?_⟩
  change Settles _ (Emit.ofExcept (plainDefault context.language (some kind) (.int n))) ↔ _
  rw [java]
  cases kind with
  | integer => exact settles_integer_iff n
  | long => exact settles_long_iff n
  | number => exact settles_number_iff n
  | _ => cases numeric

/-- An integer between the ranges of the two types is settled as a threshold and in a property of
the longer type, but not in one of the shorter type. -/
theorem settles_iff_counter :
    let context : Context := { graph := {}, settings := {}, language := .java }
    (context.language = .java ∧ ConstraintKind.maximum ≠ .pattern ∧
      PrimitiveKind.long.isNumeric ∧ PrimitiveKind.integer.isNumeric) ∧
    Settles (Denotes .long 3000000000) (Emit.ofExcept (operandLiteral .java <$>
      Constraint.guard ⟨.maximum, .int 3000000000⟩ "value" "value" false false)) ∧
    Settles (Denotes .long 3000000000)
      (context.defaultValue (.int 3000000000) (.primitive .long .null)) ∧
    ¬Settles (Denotes .integer 3000000000)
      (context.defaultValue (.int 3000000000) (.primitive .integer .null)) := by
  intro context
  obtain ⟨asOperand, asDefault⟩ := @settles_iff context rfl 3000000000
  have long : InRange .long 3000000000 := (by decide : FitsBits 64 3000000000)
  have short : ¬InRange .integer 3000000000 := (by decide : ¬FitsBits 32 3000000000)
  refine ⟨⟨rfl, by decide, rfl, rfl⟩, ?_, ?_, ?_⟩
  · rw [asOperand .maximum "value" "value" false false (by decide)]
    exact long
  · rw [asDefault .long .null rfl]
    exact long
  · rw [asDefault .integer .null rfl]
    exact short

/-- The default value of a property is written without regard to the range of its type. -/
theorem default_not_settled :
    let context : Context := { graph := {}, settings := {}, language := .java }
    let step := context.defaultValue (.int 3000000000) (.primitive .integer .null)
    step {} = .ok "3000000000" {} ∧ numeral? "3000000000".toList = none ∧
      ¬Settles (Denotes .integer 3000000000) step := by
  intro context step
  have large : ¬FitsBits 32 3000000000 := by decide
  have written : (Value.int 3000000000).writable = .ok (.int 3000000000) :=
    (writable_cases 3000000000).resolve_right fun unwritten => unwritten.2 (by decide)
  have literal : plainDefault .java (some .integer) (.int 3000000000) = .ok "3000000000" := by
    have asInteger : plainDefault .java (some .integer) (.int 3000000000) =
        return (← (Value.int 3000000000).writable).plain := rfl
    rw [asInteger, written]
    rfl
  have steps : step = Emit.ofExcept (plainDefault .java (some .integer) (.int 3000000000)) := rfl
  refine ⟨by rw [steps, literal]; rfl, by decide, ?_⟩
  rw [steps, settles_integer_iff]
  exact large

end SchemaClasses.Java
