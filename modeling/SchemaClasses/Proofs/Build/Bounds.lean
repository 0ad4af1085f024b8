import Mathlib.Algebra.Order.Field.Rat
import Mathlib.Order.WithBot
import SchemaClasses.Build.Constraints
import SchemaClasses.Proofs.Outcome

/-!
# Bounds of numbers

The four bound keywords of a schema say which numbers it admits. A strict bound is either a number
of its own or a truth value, which says whether the other bound on the same side is strict. The
constraints that are collected from the keywords admit the same numbers.

## Main definitions

* `Value.toExtended?`: the number that a value is.
* `Node.AdmitsNumber`: the bound keywords of a schema admit a number.
* `Constraint.Admits`: a constraint admits a number.
* `Node.HasBounds`: the bound keywords of a schema can be read.

## Main statements

* `numericConstraints_admits`: the constraints of a schema admit the numbers that its keywords
  admit, and there are constraints exactly when the keywords can be read.
-/

namespace SchemaClasses

abbrev Extended := WithBot (WithTop ℚ)

def Binary64.toExtended? : Binary64 → Option Extended
  | .finite negative mantissa exponent =>
    some ((((if negative then -1 else 1) * mantissa * 2 ^ exponent : ℚ) : WithTop ℚ) : Extended)
  | .infinite negative => some (if negative then ⊥ else ⊤)
  | .nan => none

def Value.toExtended? : Value → Option Extended
  | .int n => some (((n : ℚ) : WithTop ℚ) : Extended)
  | .float x => x.toExtended?
  | _ => none

def Value.BoundsBelow (bound : Value) (strict : Prop) (x : Extended) : Prop :=
  ∃ b ∈ bound.toExtended?, b ≤ x ∧ (strict → b < x)

def Value.BoundsAbove (bound : Value) (strict : Prop) (x : Extended) : Prop :=
  ∃ b ∈ bound.toExtended?, x ≤ b ∧ (strict → x < b)

/-- A constraint admits a number. Only the four bounds are about numbers. -/
def Constraint.Admits (constraint : Constraint) (x : Extended) : Prop :=
  match constraint.kind with
  | .minimum => constraint.value.BoundsBelow False x
  | .exclusiveMinimum => constraint.value.BoundsBelow True x
  | .maximum => constraint.value.BoundsAbove False x
  | .exclusiveMaximum => constraint.value.BoundsAbove True x
  | _ => True

/-- A number is admitted by the bound keywords of a schema. A bound is strict if the keyword beside
it is true; that keyword is a strict bound itself if it is a number. -/
structure Node.AdmitsNumber (node : Node) (x : Extended) : Prop where
  minimum : isNumber (node.valueOf "minimum") →
    (node.valueOf "minimum").BoundsBelow (node.valueOf "exclusiveMinimum" = .bool true) x
  exclusiveMinimum : isNumber (node.valueOf "exclusiveMinimum") →
    (node.valueOf "exclusiveMinimum").BoundsBelow True x
  maximum : isNumber (node.valueOf "maximum") →
    (node.valueOf "maximum").BoundsAbove (node.valueOf "exclusiveMaximum" = .bool true) x
  exclusiveMaximum : isNumber (node.valueOf "exclusiveMaximum") →
    (node.valueOf "exclusiveMaximum").BoundsAbove True x

def Value.IsBound (value : Value) : Prop := value = .null ∨ isNumber value

/-- A value is a strict bound or none, or says whether another bound is strict. -/
def Value.IsStrictBound (value : Value) : Prop := value.IsBound ∨ ∃ b, value = .bool b

structure Node.HasBounds (node : Node) : Prop where
  minimum : (node.valueOf "minimum").IsBound
  exclusiveMinimum : (node.valueOf "exclusiveMinimum").IsStrictBound
  maximum : (node.valueOf "maximum").IsBound
  exclusiveMaximum : (node.valueOf "exclusiveMaximum").IsStrictBound

def boundKinds : List ConstraintKind := [.minimum, .exclusiveMinimum, .maximum, .exclusiveMaximum]

/-! ## A bound and its strict form -/

section

variable (bound strict : Value)

/-- A bound and its strict form are bounds when they can be read. -/
theorem isBound_strictBound_iff :
    (strictBound bound strict).1.IsBound ∧ (strictBound bound strict).2.IsBound ↔
      bound.IsBound ∧ strict.IsStrictBound := by
  have null : Value.null.IsBound := .inl rfl
  unfold strictBound Value.IsStrictBound
  split
  · simp [null]
  · simp [null]
  · rename_i no yes
    have number : ¬∃ b, strict = .bool b := by
      rintro ⟨b, rfl⟩
      cases b
      · exact yes rfl
      · exact no rfl
    simp [number]

/-- What is said of a bound and its strict form is said of the two keywords: `P` of a bound that may
be strict. -/
theorem forall_strictBound_iff (P : Prop → Value → Prop) :
    (isNumber (strictBound bound strict).1 → P False (strictBound bound strict).1) ∧
        (isNumber (strictBound bound strict).2 → P True (strictBound bound strict).2) ↔
      (isNumber bound → P (strict = .bool true) bound) ∧ (isNumber strict → P True strict) := by
  unfold strictBound
  split
  · simp [isNumber]
  · simp [isNumber]
  · rename_i no _
    have lax : (strict = .bool true) = False := eq_false no
    rw [lax]

end

/-! ## Constraints -/

section

variable {node : Node} {kind : ConstraintKind} {value : Value} {constraints : List Constraint}

theorem boundConstraint_eq_ok_iff : boundConstraint node kind value = .ok constraints ↔
    (value = .null ∧ constraints = []) ∨ (isNumber value ∧ constraints = [⟨kind, value⟩]) := by
  unfold boundConstraint
  cases value <;> simp [Value.isNull, isNumber, unsupported, eq_comm]

theorem exists_boundConstraint_iff :
    (∃ constraints, boundConstraint node kind value = .ok constraints) ↔ value.IsBound := by
  simp [boundConstraint_eq_ok_iff, Value.IsBound, exists_or]

/-- The failure of a bound names the keyword. -/
theorem eq_of_boundConstraint_eq_error {failure : Failure}
    (h : boundConstraint node kind value = .error failure) :
    failure = .unsupportedSchema node.path (kind.keyword ++ " must be a number") := by
  unfold boundConstraint at h
  split at h
  · cases h
  · split at h
    · cases h
    · cases h
      rfl

theorem kinds_of_boundConstraint (h : boundConstraint node kind value = .ok constraints) :
    (constraints.map (·.kind)).Sublist [kind] := by
  rcases boundConstraint_eq_ok_iff.1 h with ⟨-, rfl⟩ | ⟨-, rfl⟩
  · exact List.nil_sublist _
  · exact List.Sublist.refl _

theorem admits_of_boundConstraint (h : boundConstraint node kind value = .ok constraints)
    (x : Extended) : (∀ constraint ∈ constraints, constraint.Admits x) ↔
      (isNumber value → Constraint.Admits ⟨kind, value⟩ x) := by
  rcases boundConstraint_eq_ok_iff.1 h with ⟨rfl, rfl⟩ | ⟨number, rfl⟩
  · simp [isNumber]
  · simp [number]

/-- The constraints of a numeric schema are those of the four bounds, one after the other. -/
theorem numericConstraints_eq (node : Node) : numericConstraints node = do
    let least := strictBound (node.valueOf "minimum") (node.valueOf "exclusiveMinimum")
    let most := strictBound (node.valueOf "maximum") (node.valueOf "exclusiveMaximum")
    let a ← boundConstraint node .minimum least.1
    let b ← boundConstraint node .exclusiveMinimum least.2
    let c ← boundConstraint node .maximum most.1
    let d ← boundConstraint node .exclusiveMaximum most.2
    return a ++ (b ++ (c ++ d)) := by
  simp [numericConstraints]

/-- There are constraints when the keywords can be read. -/
theorem exists_numericConstraints_iff :
    (∃ constraints, numericConstraints node = .ok constraints) ↔ node.HasBounds := by
  have least := isBound_strictBound_iff (node.valueOf "minimum") (node.valueOf "exclusiveMinimum")
  have most := isBound_strictBound_iff (node.valueOf "maximum") (node.valueOf "exclusiveMaximum")
  rw [numericConstraints_eq]
  simp only [Except.bind_eq_ok_iff]
  constructor
  · rintro ⟨_, a, ha, b, hb, c, hc, d, hd, -⟩
    obtain ⟨minimum, exclusiveMinimum⟩ :=
      least.1 ⟨exists_boundConstraint_iff.1 ⟨a, ha⟩, exists_boundConstraint_iff.1 ⟨b, hb⟩⟩
    obtain ⟨maximum, exclusiveMaximum⟩ :=
      most.1 ⟨exists_boundConstraint_iff.1 ⟨c, hc⟩, exists_boundConstraint_iff.1 ⟨d, hd⟩⟩
    exact ⟨minimum, exclusiveMinimum, maximum, exclusiveMaximum⟩
  · intro h
    obtain ⟨isMinimum, isStrictMinimum⟩ := least.2 ⟨h.minimum, h.exclusiveMinimum⟩
    obtain ⟨isMaximum, isStrictMaximum⟩ := most.2 ⟨h.maximum, h.exclusiveMaximum⟩
    obtain ⟨a, ha⟩ := exists_boundConstraint_iff.2 isMinimum
    obtain ⟨b, hb⟩ := exists_boundConstraint_iff.2 isStrictMinimum
    obtain ⟨c, hc⟩ := exists_boundConstraint_iff.2 isMaximum
    obtain ⟨d, hd⟩ := exists_boundConstraint_iff.2 isStrictMaximum
    exact ⟨_, a, ha, b, hb, c, hc, d, hd, rfl⟩

/-- A failure is that of one of the bounds. -/
theorem exists_kind_of_numericConstraints {failure : Failure}
    (h : numericConstraints node = .error failure) : ∃ kind ∈ boundKinds,
      failure = .unsupportedSchema node.path (kind.keyword ++ " must be a number") := by
  rw [numericConstraints_eq] at h
  simp only [Except.bind_eq_error_iff] at h
  rcases h with h | ⟨_, -, h | ⟨_, -, h | ⟨_, -, h | ⟨_, -, h⟩⟩⟩⟩
  · exact ⟨.minimum, by simp [boundKinds], eq_of_boundConstraint_eq_error h⟩
  · exact ⟨.exclusiveMinimum, by simp [boundKinds], eq_of_boundConstraint_eq_error h⟩
  · exact ⟨.maximum, by simp [boundKinds], eq_of_boundConstraint_eq_error h⟩
  · exact ⟨.exclusiveMaximum, by simp [boundKinds], eq_of_boundConstraint_eq_error h⟩
  · cases h

/-- Each kind of bound occurs once, and they are in order. -/
theorem kinds_of_numericConstraints (h : numericConstraints node = .ok constraints) :
    (constraints.map (·.kind)).Sublist boundKinds := by
  rw [numericConstraints_eq] at h
  simp only [Except.bind_eq_ok_iff] at h
  obtain ⟨a, ha, b, hb, c, hc, d, hd, rest⟩ := h
  cases rest
  simp only [List.map_append]
  exact (kinds_of_boundConstraint ha).append ((kinds_of_boundConstraint hb).append
    ((kinds_of_boundConstraint hc).append (kinds_of_boundConstraint hd)))

/-- The constraints admit the numbers that the keywords admit. -/
theorem admits_of_numericConstraints (h : numericConstraints node = .ok constraints)
    (x : Extended) :
    (∀ constraint ∈ constraints, constraint.Admits x) ↔ node.AdmitsNumber x := by
  have least := forall_strictBound_iff (node.valueOf "minimum") (node.valueOf "exclusiveMinimum")
    fun strict bound => bound.BoundsBelow strict x
  have most := forall_strictBound_iff (node.valueOf "maximum") (node.valueOf "exclusiveMaximum")
    fun strict bound => bound.BoundsAbove strict x
  rw [numericConstraints_eq] at h
  simp only [Except.bind_eq_ok_iff] at h
  obtain ⟨a, ha, b, hb, c, hc, d, hd, rest⟩ := h
  cases rest
  simp only [List.forall_mem_append, admits_of_boundConstraint ha, admits_of_boundConstraint hb,
    admits_of_boundConstraint hc, admits_of_boundConstraint hd]
  constructor
  · rintro ⟨a, b, c, d⟩
    obtain ⟨minimum, exclusiveMinimum⟩ := least.1 ⟨a, b⟩
    obtain ⟨maximum, exclusiveMaximum⟩ := most.1 ⟨c, d⟩
    exact ⟨minimum, exclusiveMinimum, maximum, exclusiveMaximum⟩
  · intro h
    obtain ⟨a, b⟩ := least.2 ⟨h.minimum, h.exclusiveMinimum⟩
    obtain ⟨c, d⟩ := most.2 ⟨h.maximum, h.exclusiveMaximum⟩
    exact ⟨a, b, c, d⟩

/-- A numeric schema has constraints exactly when its bound keywords can be read, and else the
failure names a keyword. The constraints are of different kinds, in a fixed order, and admit the
numbers that the keywords admit. -/
theorem numericConstraints_admits (node : Node) :
    ((∃ constraints, numericConstraints node = .ok constraints) ↔ node.HasBounds) ∧
    (∀ failure, numericConstraints node = .error failure → ∃ kind ∈ boundKinds,
      failure = .unsupportedSchema node.path (kind.keyword ++ " must be a number")) ∧
    ∀ constraints, numericConstraints node = .ok constraints →
      (constraints.map (·.kind)).Sublist boundKinds ∧ (constraints.map (·.kind)).Nodup ∧
      ∀ x, (∀ constraint ∈ constraints, constraint.Admits x) ↔ node.AdmitsNumber x := by
  refine ⟨exists_numericConstraints_iff, fun _ h => exists_kind_of_numericConstraints h,
    fun constraints h => ?_⟩
  have kinds := kinds_of_numericConstraints h
  have distinct : boundKinds.Nodup := by decide
  exact ⟨kinds, distinct.sublist kinds, admits_of_numericConstraints h⟩

/-- A rate is above zero, by a switch, and at most one hundred. -/
example : numericConstraints ⟨"/properties/rate", .object [("minimum", .int 0),
    ("exclusiveMinimum", .bool true), ("maximum", .int 100)]⟩ =
      .ok [⟨.exclusiveMinimum, .int 0⟩, ⟨.maximum, .int 100⟩] := by
  rfl

end

end SchemaClasses
