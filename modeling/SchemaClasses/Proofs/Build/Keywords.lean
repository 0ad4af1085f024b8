import SchemaClasses.Build.Constraints
import SchemaClasses.Proofs.Outcome

/-!
# The validation keywords of a schema

Where the constraints come from that a schema has for a type. Each fits the type: its operand is a
value of the schema, apart from counts that are written as floating-point numbers.

## Main definitions

* `ConstraintKind.appliesTo`: the types whose values a validation keyword is about.
* `Constraint.Stems`: a constraint comes from a validation keyword of a schema.

## Main statements

* `stems_of_constraintsFor`: the constraints of a schema come from its validation keywords.
-/

namespace SchemaClasses

/-- Whether a validation keyword is about the values of a type: bounds are about numbers, length and
pattern about plain strings, and counts and uniqueness about sequences. That a property is required
is about none of them. -/
def ConstraintKind.appliesTo (kind : ConstraintKind) (type : TypeRef) : Bool :=
  match kind with
  | .required => false
  | .minimum | .exclusiveMinimum | .maximum | .exclusiveMaximum =>
    type.primitive?.any [.integer, .long, .number].contains
  | .minLength | .maxLength | .pattern => type.primitive? = some .string
  | .minItems | .maxItems | .uniqueItems => type.isSequence

/-- Where the operand of a constraint comes from: it is a value of a schema, or the count that a
floating-point number of the schema is equal to. -/
inductive Constraint.Operand (node : Node) : Value → Prop
  | given (key : String) : Operand node (node.valueOf key)
  | count {key : String} {x : Binary64} {n : Int} (given : node.valueOf key = .float x)
      (whole : x.toInt? = some n) : Operand node (.int n)

/-- A constraint comes from a validation keyword of a schema that applies to values of a type. -/
structure Constraint.Stems (node : Node) (type : TypeRef) (constraint : Constraint) : Prop where
  operand : Constraint.Operand node constraint.value
  applies : constraint.kind.appliesTo type

/-- No validation keyword makes a property required. -/
theorem Constraint.Stems.notRequired {node : Node} {type : TypeRef} {constraint : Constraint}
    (h : constraint.Stems node type) : constraint.kind ≠ .required := by
  intro required
  have applies := h.applies
  rw [required] at applies
  cases applies

/-- Only sequences have items that can be unique. -/
theorem Constraint.Stems.unique {node : Node} {type : TypeRef} {constraint : Constraint}
    (h : constraint.Stems node type) (unique : constraint.kind = .uniqueItems) :
    type.isSequence := by
  have applies := h.applies
  rwa [unique] at applies

section

variable {node : Node} {type : TypeRef} {kind : ConstraintKind} {constraints : List Constraint}

/-- A bound keeps its operand as it is. -/
theorem stems_of_boundConstraint {value : Value}
    (operand : isNumber value → Constraint.Operand node value)
    (h : boundConstraint node kind value = .ok constraints) (applies : kind.appliesTo type) :
    ∀ constraint ∈ constraints, constraint.Stems node type := by
  unfold boundConstraint at h
  intro constraint mem
  split at h
  · cases h
    cases mem
  · split at h
    · rename_i number
      cases h
      obtain rfl := List.mem_singleton.1 mem
      exact ⟨operand number, applies⟩
    · cases h

/-- A bound and its strict form are values of the schema, or null. -/
theorem operand_strictBound (node : Node) (bound strict : String) :
    (isNumber (strictBound (node.valueOf bound) (node.valueOf strict)).1 →
      Constraint.Operand node (strictBound (node.valueOf bound) (node.valueOf strict)).1) ∧
      (isNumber (strictBound (node.valueOf bound) (node.valueOf strict)).2 →
        Constraint.Operand node (strictBound (node.valueOf bound) (node.valueOf strict)).2) := by
  unfold strictBound
  split
  · exact ⟨by simp [isNumber], fun _ => .given bound⟩
  · exact ⟨fun _ => .given bound, by simp [isNumber]⟩
  · exact ⟨fun _ => .given bound, fun _ => .given strict⟩

/-- Both bounds come from their own keywords, or from the keywords beside them that make them
strict. -/
theorem stems_of_numericConstraints {numeric : PrimitiveKind} {format : Value}
    (isNumeric : numeric.isNumeric) (h : numericConstraints node = .ok constraints) :
    ∀ constraint ∈ constraints, constraint.Stems node (.primitive numeric format) := by
  have isBound : [PrimitiveKind.integer, .long, .number].contains numeric := by
    cases numeric <;> first | rfl | cases isNumeric
  obtain ⟨bounds, hbounds, h⟩ := Except.bind_eq_ok_iff.1 h
  cases h
  intro constraint mem
  obtain ⟨bound, hbound, mem⟩ := List.mem_flatten.1 mem
  obtain ⟨⟨kind, value⟩, hkind, eq⟩ := Except.mem_of_mapM_eq_ok hbounds hbound
  have least := operand_strictBound node "minimum" "exclusiveMinimum"
  have most := operand_strictBound node "maximum" "exclusiveMaximum"
  simp only [List.mem_cons, Prod.mk.injEq, List.not_mem_nil, or_false] at hkind
  rcases hkind with ⟨rfl, rfl⟩ | ⟨rfl, rfl⟩ | ⟨rfl, rfl⟩ | ⟨rfl, rfl⟩
  · refine stems_of_boundConstraint least.1 eq ?_ constraint mem
    exact isBound
  · refine stems_of_boundConstraint least.2 eq ?_ constraint mem
    exact isBound
  · refine stems_of_boundConstraint most.1 eq ?_ constraint mem
    exact isBound
  · refine stems_of_boundConstraint most.2 eq ?_ constraint mem
    exact isBound

/-- A count is a value of the schema, or the whole number that this is equal to. -/
theorem stems_of_countConstraint (applies : kind.appliesTo type)
    (h : countConstraint node kind = .ok constraints) :
    ∀ constraint ∈ constraints, constraint.Stems node type := by
  unfold countConstraint at h
  simp only at h
  intro constraint mem
  split at h
  · cases h
    cases mem
  · split at h
    · rename_i count counts
      cases h
      obtain rfl := List.mem_singleton.1 mem
      refine ⟨?_, applies⟩
      obtain ⟨whole, -⟩ := Option.filter_eq_some_iff.1 counts
      unfold wholeNumber? at whole
      split at whole
      · rename_i given
        cases whole
        exact given ▸ .given kind.keyword
      · rename_i given
        exact .count given whole
      · cases whole
    · cases h

/-- The pattern is kept as it stands in the schema. -/
theorem stems_of_patternConstraint {format : Value} (h : patternConstraint node = .ok constraints) :
    ∀ constraint ∈ constraints, constraint.Stems node (.primitive .string format) := by
  unfold patternConstraint at h
  intro constraint mem
  split at h
  · cases h
    cases mem
  · rename_i given
    split at h
    · cases h
      obtain rfl := List.mem_singleton.1 mem
      exact ⟨given ▸ .given "pattern", rfl⟩
    · cases h
    · cases h
  · cases h

/-- Plain strings have lengths and a pattern. -/
theorem stems_of_stringConstraints {format : Value} (h : stringConstraints node = .ok constraints) :
    ∀ constraint ∈ constraints, constraint.Stems node (.primitive .string format) := by
  simp only [stringConstraints, Except.bind_eq_ok_iff] at h
  obtain ⟨least, hleast, most, hmost, pattern, hpattern, h⟩ := h
  cases h
  have first : ∀ constraint ∈ least, constraint.Stems node (.primitive .string format) :=
    stems_of_countConstraint rfl hleast
  have second : ∀ constraint ∈ most, constraint.Stems node (.primitive .string format) :=
    stems_of_countConstraint rfl hmost
  have third : ∀ constraint ∈ pattern, constraint.Stems node (.primitive .string format) :=
    stems_of_patternConstraint hpattern
  grind

/-- Sequences have counts, and the keyword of distinct items. -/
theorem stems_of_arrayConstraints {item : TypeRef} {onItems : List Constraint}
    (h : arrayConstraints node = .ok constraints) :
    ∀ constraint ∈ constraints, constraint.Stems node (.sequence item onItems) := by
  simp only [arrayConstraints, Except.bind_eq_ok_iff] at h
  obtain ⟨least, hleast, most, hmost, h⟩ := h
  cases h
  have first : ∀ constraint ∈ least, constraint.Stems node (.sequence item onItems) :=
    stems_of_countConstraint rfl hleast
  have second : ∀ constraint ∈ most, constraint.Stems node (.sequence item onItems) :=
    stems_of_countConstraint rfl hmost
  have third : ∀ constraint ∈ uniqueConstraint node, constraint.Stems node (.sequence item onItems) := by
    unfold uniqueConstraint
    intro constraint mem
    split at mem
    · rename_i given
      obtain rfl := List.mem_singleton.1 mem
      exact ⟨given ▸ .given "uniqueItems", rfl⟩
    · cases mem
  grind

/-- The constraints of a schema come from its validation keywords. -/
theorem stems_of_constraintsFor (h : constraintsFor node type = .ok constraints) :
    ∀ constraint ∈ constraints, constraint.Stems node type := by
  have none (h : (.ok [] : Except Failure (List Constraint)) = .ok constraints) :
      ∀ constraint ∈ constraints, constraint.Stems node type := by
    cases h
    intro constraint mem
    cases mem
  unfold constraintsFor at h
  split at h
  · exact none h
  · split at h
    · split at h
      · rename_i isNumeric
        exact stems_of_numericConstraints isNumeric h
      · split at h
        · rename_i isString
          subst isString
          exact stems_of_stringConstraints h
        · exact none h
    · exact stems_of_arrayConstraints h
    · exact none h

end

end SchemaClasses
