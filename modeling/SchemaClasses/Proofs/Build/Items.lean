import SchemaClasses.Proofs.Build.Bounds
import SchemaClasses.Proofs.Build.Form
import SchemaClasses.Proofs.Build.Keywords
import SchemaClasses.Proofs.GuardOrder

/-!
# Constraints on items

A sequence may have sequences as its items. The constraints that are collected from the schemas of
the items stand in the type, those of each level beside the items of that level. The guards of a
property are about the value itself and about the items of the first level, and so the constraints
of the levels below have no guards.

## Main definitions

* `TypeRef.HasAt`: a constraint on the items of some level.
* `Property.ChecksItems`: the guards of a property make the checks of all levels.
* `TypeRef.IsCollected`: types with constraints that are collected from schemas.

## Main statements

* `kinds_of_constraintsFor`: the constraints of a schema are of different kinds.
* `isCollected_of_typeFor`: the types that are built are those of collected constraints.
* `checksItems_iff`: the guards make all checks exactly when there is only one level of constraints.
-/

namespace SchemaClasses

/-- A type has a constraint on the items of a level. The items of a sequence are at the first level,
and the items of those are one below. -/
inductive TypeRef.HasAt : TypeRef → Nat → Constraint → Prop
  | own {item : TypeRef} {constraints : List Constraint} {constraint : Constraint}
      (mem : constraint ∈ constraints) : HasAt (.sequence item constraints) 1 constraint
  | inner {item : TypeRef} {constraints : List Constraint} {depth : Nat} {constraint : Constraint}
      (h : HasAt item depth constraint) : HasAt (.sequence item constraints) (depth + 1) constraint

/-- Every constraint on the items of a property, at any level, has a guard. -/
def Property.ChecksItems (property : Property) : Prop :=
  ∃ guards, property.guards = .ok guards ∧ ∀ depth constraint,
    property.type.HasAt depth constraint →
      ∃ guard ∈ guards, guard.depth = depth ∧ guard.IsOf constraint

def Property.HasWritableOperands (property : Property) : Prop :=
  ∀ constraint ∈ property.constraints ++ property.type.itemConstraints, constraint.value.isWritable

/-! ## Levels -/

theorem TypeRef.HasAt.pos {type : TypeRef} {depth : Nat} {constraint : Constraint}
    (h : type.HasAt depth constraint) : 1 ≤ depth := by
  cases h <;> omega

/-- The constraints on the first level of items are those that the type itself has. -/
theorem TypeRef.hasAt_one_iff {type : TypeRef} {constraint : Constraint} :
    type.HasAt 1 constraint ↔ constraint ∈ type.itemConstraints := by
  constructor
  · intro h
    cases h with
    | own mem => exact mem
    | inner h => exact absurd h.pos (by omega)
  · intro mem
    cases type with
    | sequence => exact .own mem
    | _ => cases mem

/-! ## Kinds of constraints -/

section

variable {node : Node} {type : TypeRef} {kind : ConstraintKind} {constraints : List Constraint}

theorem kinds_of_countConstraint (h : countConstraint node kind = .ok constraints) :
    (constraints.map (·.kind)).Sublist [kind] := by
  unfold countConstraint at h
  simp only at h
  split at h
  · cases h
    exact List.nil_sublist _
  · split at h
    · cases h
      exact List.Sublist.refl _
    · cases h

/-- There is one pattern at most. -/
theorem kinds_of_patternConstraint (h : patternConstraint node = .ok constraints) :
    (constraints.map (·.kind)).Sublist [.pattern] := by
  unfold patternConstraint at h
  split at h
  · cases h
    exact List.nil_sublist _
  · split at h
    · cases h
      exact List.Sublist.refl _
    · cases h
    · cases h
  · cases h

theorem kinds_uniqueConstraint (node : Node) :
    ((uniqueConstraint node).map (·.kind)).Sublist [.uniqueItems] := by
  unfold uniqueConstraint
  split
  · exact List.Sublist.refl _
  · exact List.nil_sublist _

theorem kinds_of_stringConstraints (h : stringConstraints node = .ok constraints) :
    (constraints.map (·.kind)).Sublist [.minLength, .maxLength, .pattern] := by
  simp only [stringConstraints, Except.bind_eq_ok_iff] at h
  obtain ⟨least, hleast, most, hmost, pattern, hpattern, h⟩ := h
  cases h
  rw [List.map_append, List.map_append]
  exact ((kinds_of_countConstraint hleast).append (kinds_of_countConstraint hmost)).append
    (kinds_of_patternConstraint hpattern)

theorem kinds_of_arrayConstraints (h : arrayConstraints node = .ok constraints) :
    (constraints.map (·.kind)).Sublist [.minItems, .maxItems, .uniqueItems] := by
  simp only [arrayConstraints, Except.bind_eq_ok_iff] at h
  obtain ⟨least, hleast, most, hmost, h⟩ := h
  cases h
  rw [List.map_append, List.map_append]
  exact ((kinds_of_countConstraint hleast).append (kinds_of_countConstraint hmost)).append
    (kinds_uniqueConstraint node)

/-- The constraints of a schema are of different kinds. -/
theorem kinds_of_constraintsFor (h : constraintsFor node type = .ok constraints) :
    (constraints.map (·.kind)).Nodup := by
  have none (h : (.ok [] : Except Failure (List Constraint)) = .ok constraints) :
      (constraints.map (·.kind)).Nodup := by
    cases h
    exact List.nodup_nil
  unfold constraintsFor at h
  split at h
  · exact none h
  · split at h
    · split at h
      · exact List.Nodup.sublist (kinds_of_numericConstraints h) (by decide)
      · split at h
        · exact List.Nodup.sublist (kinds_of_stringConstraints h) (by decide)
        · exact none h
    · exact List.Nodup.sublist (kinds_of_arrayConstraints h) (by decide)
    · exact none h

/-- That a property is required is a constraint of its own kind. -/
theorem kinds_of_required (added : Bool) (h : constraintsFor node type = .ok constraints) :
    (((if added then [Constraint.mk .required .null] else []) ++ constraints).map
      (·.kind)).Nodup := by
  have distinct := kinds_of_constraintsFor h
  cases added with
  | false => exact distinct
  | true =>
    refine List.nodup_cons.2 ⟨fun mem => ?_, distinct⟩
    obtain ⟨constraint, hconstraint, required⟩ := List.mem_map.1 mem
    exact (stems_of_constraintsFor h constraint hconstraint).notRequired required

end

/-! ## Types that are built -/

/-- A type whose constraints are collected from schemas: there is a type of the items of a sequence,
and the constraints on them are of different kinds. -/
inductive TypeRef.IsCollected : TypeRef → Prop
  | primitive (kind : PrimitiveKind) (format : Value) : IsCollected (.primitive kind format)
  | ofClass (id : ClassId) : IsCollected (.ofClass id)
  | sequence {item : TypeRef} {constraints : List Constraint} (h : IsCollected item)
      (distinct : (constraints.map (·.kind)).Nodup) : IsCollected (.sequence item constraints)
  | map {value : TypeRef} (h : IsCollected value) : IsCollected (.map value)
  | enum (definition : EnumDef) : IsCollected (.enum definition)

theorem TypeRef.IsCollected.nodup {type : TypeRef} (h : type.IsCollected) :
    (type.itemConstraints.map (·.kind)).Nodup := by
  cases h with
  | sequence _ distinct => exact distinct
  | _ => exact List.nodup_nil

section

variable {source : Source} {builders : Builders} {node keywords : Node} {nameHint : String}
  {owner : ClassId} {type : TypeRef} {s s' : BuildState}

/-- The type of a form is of collected constraints if the types that are built for it are. -/
theorem isCollected_of_buildForm {form : Form} (has : node.HasForm form)
    (inner : ∀ {node keywords : Node} {nameHint : String} {type : TypeRef} {s s' : BuildState},
      builders.typeFor node nameHint owner s = .ok (type, keywords) s' → type.IsCollected)
    (h : buildForm source builders node nameHint owner form s = .ok (type, keywords) s') :
    type.IsCollected := by
  cases form with
  | reference =>
    obtain ⟨_, -, -, ⟨-, id, eq⟩ | ⟨-, _, _, _, built⟩⟩ := buildReference_eq_ok h
    · obtain rfl : type = .ofClass id := eq
      exact .ofClass id
    · exact inner built
  | any =>
    cases h
    exact .primitive _ _
  | enum =>
    obtain ⟨_, _, built, h⟩ := Build.bind_eq_ok_iff.1 h
    obtain ⟨definition, rfl⟩ := buildEnum_eq_ok built
    cases h
    exact .enum definition
  | nullable alternative => exact inner h
  | ofClass =>
    obtain ⟨id, _, -, h⟩ := Build.bind_eq_ok_iff.1 h
    cases h
    exact .ofClass id
  | anySequence =>
    cases h
    exact .sequence (.primitive _ _) List.nodup_nil
  | sequence items =>
    obtain ⟨⟨item, keywords⟩, _, built, h⟩ := Build.bind_eq_ok_iff.1 h
    obtain ⟨constraints, _, collected, h⟩ := Build.bind_eq_ok_iff.1 h
    have given := (Build.ofExcept_eq_ok_iff.1 collected).1
    cases h
    exact .sequence (inner built) (kinds_of_constraintsFor given)
  | map values =>
    obtain ⟨⟨value, keywords⟩, _, built, h⟩ := Build.bind_eq_ok_iff.1 h
    cases h
    exact .map (inner built)
  | plain type =>
    cases h
    cases has with
    | plain isPrimitive =>
      obtain ⟨kind, rfl⟩ := eq_primitive_of_primitiveType isPrimitive
      exact .primitive kind _

/-- The types that are built to any depth are of collected constraints. -/
theorem isCollected_of_typeFor {depth : Nat}
    (h : (SchemaClasses.builders source depth).typeFor node nameHint owner s =
      .ok (type, keywords) s') :
    type.IsCollected := by
  induction depth generalizing node keywords nameHint type s s' with
  | zero => cases h
  | succ depth ih =>
    have built : buildType source (SchemaClasses.builders source depth) node nameHint owner s =
        .ok (type, keywords) s' := h
    rw [buildType_eq] at built
    obtain ⟨form, _, found, built⟩ := Build.bind_eq_ok_iff.1 built
    have has := Node.HasForm.of_form (Build.ofExcept_eq_ok_iff.1 found).1
    exact isCollected_of_buildForm has ih built

/-- The constraints of a property that is built, and those on its items, are collected. -/
theorem isCollected_of_buildProperty {depth : Nat} {name : String} {isRequired : Bool}
    {property : Property} (run : buildProperty (SchemaClasses.builders source depth) name node
      isRequired owner s = .ok property s') :
    property.type.IsCollected ∧ (property.constraints.map (·.kind)).Nodup := by
  obtain ⟨type, keywords, default?, constraints, typed, -, given, rfl⟩ := buildProperty_eq_ok run
  exact ⟨isCollected_of_typeFor typed, kinds_of_required _ given⟩

end

/-! ## Guards of properties -/

section

variable {property : Property}

theorem TypeRef.IsCollected.hasItemType (collected : property.type.IsCollected) :
    property.HasItemType := by
  intro constraints shape
  rw [shape] at collected
  cases collected with
  | sequence absent => cases absent

/-- The guards of a property are those on the value and those on the items of the first level. -/
theorem Property.guards_eq_ok_iff (collected : property.type.IsCollected) {guards : List Guard} :
    property.guards = .ok guards ↔ ∃ own onItems,
      guardsOf property.name property.name property.constraints property.nullable false = .ok own ∧
      guardsOf property.name (property.name ++ " item") property.type.itemConstraints
        property.nullable true = .ok onItems ∧
      guards = own ++ onItems :=
  Property.guards_eq_ok_iff_groups collected.hasItemType

/-- A property has guards when all operands can be written. -/
theorem Property.exists_guards_iff (collected : property.type.IsCollected)
    (distinct : (property.constraints.map (·.kind)).Nodup) :
    (∃ guards, property.guards = .ok guards) ↔ property.HasWritableOperands := by
  have onItems : (∃ guards, guardsOf property.name (property.name ++ " item")
      property.type.itemConstraints property.nullable true = .ok guards) ↔
        ∀ constraint ∈ property.type.itemConstraints, constraint.value.isWritable :=
    exists_guardsOf_iff collected.nodup
  have own : (∃ guards, guardsOf property.name property.name property.constraints
      property.nullable false = .ok guards) ↔
        ∀ constraint ∈ property.constraints, constraint.value.isWritable :=
    exists_guardsOf_iff distinct
  simp only [Property.HasWritableOperands, List.forall_mem_append, ← own, ← onItems,
    Property.guards_eq_ok_iff collected]
  constructor
  · rintro ⟨_, own, onItems, hown, hitems, -⟩
    exact ⟨⟨own, hown⟩, onItems, hitems⟩
  · rintro ⟨⟨own, hown⟩, onItems, hitems⟩
    exact ⟨_, own, onItems, hown, hitems, rfl⟩

/-- Of the constraints on items, those of the first level have guards. -/
theorem Property.exists_guard_iff (collected : property.type.IsCollected) {guards : List Guard}
    (h : property.guards = .ok guards) {depth : Nat} {constraint : Constraint}
    (mem : property.type.HasAt depth constraint) :
    (∃ guard ∈ guards, guard.depth = depth ∧ guard.IsOf constraint) ↔ depth = 1 := by
  obtain ⟨own, onItems, hown, hitems, rfl⟩ := (Property.guards_eq_ok_iff collected).1 h
  constructor
  · rintro ⟨guard, -, rfl, -⟩
    exact Nat.le_antisymm guard.depth_le mem.pos
  · rintro rfl
    obtain ⟨guard, hguard, isOf, isOn⟩ :=
      exists_guard_of_mem collected.nodup hitems (TypeRef.hasAt_one_iff.1 mem)
    refine ⟨guard, List.mem_append_right _ hguard, ?_, isOf⟩
    simp [Guard.depth, isOn.element]

/-- A property that is built has guards exactly when the operands of its constraints can be written.
Of the constraints on its items exactly those of the first level have a guard, and so all of them
have exactly when there are none at the levels below. -/
theorem checksItems_iff {source : Source} {depth : Nat} {name : String} {node : Node}
    {isRequired : Bool} {owner : ClassId} {s s' : BuildState}
    (run : buildProperty (builders source depth) name node isRequired owner s = .ok property s') :
    ((∃ guards, property.guards = .ok guards) ↔ property.HasWritableOperands) ∧
    (∀ guards, property.guards = .ok guards → ∀ level constraint,
      property.type.HasAt level constraint →
        ((∃ guard ∈ guards, guard.depth = level ∧ guard.IsOf constraint) ↔ level = 1)) ∧
    (property.ChecksItems ↔ property.HasWritableOperands ∧
      ∀ level constraint, property.type.HasAt level constraint → level = 1) := by
  obtain ⟨collected, distinct⟩ := isCollected_of_buildProperty run
  have writable := property.exists_guards_iff collected distinct
  refine ⟨writable, fun _ h _ _ mem => property.exists_guard_iff collected h mem, ?_⟩
  rw [← writable]
  constructor
  · rintro ⟨guards, h, all⟩
    refine ⟨⟨guards, h⟩, fun level constraint mem => ?_⟩
    exact (property.exists_guard_iff collected h mem).1 (all level constraint mem)
  · rintro ⟨⟨guards, h⟩, first⟩
    refine ⟨guards, h, fun level constraint mem => ?_⟩
    exact (property.exists_guard_iff collected h mem).2 (first level constraint mem)

/-- The schema of a matrix in which no row is empty and no number is negative. -/
def matrixSchema : Node := ⟨"/properties/matrix", .object [
  ("type", .string "array"),
  ("items", .object [
    ("type", .string "array"),
    ("minItems", .int 1),
    ("items", .object [("type", .string "integer"), ("minimum", .int 0)])])]⟩

def grid : Value := .object [
  ("properties", .object [("matrix", matrixSchema.value)]),
  ("required", .array [.string "matrix"])]

def matrix : Property where
  name := "matrix"
  type := .sequence (.sequence (.primitive .integer .null) [⟨.minimum, .int 0⟩])
    [⟨.minItems, .int 1⟩]
  required := true
  constraints := [⟨.required, .null⟩]
  path := "/properties/matrix"

theorem buildProperty_matrix (s : BuildState) :
    buildProperty (builders ⟨.ofValue grid, .string ""⟩ 3) "matrix" matrixSchema true 0 s =
      .ok matrix s := by
  rfl

theorem checksItems_iff_matrix :
    buildProperty (builders ⟨.ofValue grid, .string ""⟩ 3) "matrix" matrixSchema true 0 {} =
      .ok matrix {} ∧
    (matrix.ChecksItems ↔ matrix.HasWritableOperands ∧
      ∀ level constraint, matrix.type.HasAt level constraint → level = 1) :=
  ⟨buildProperty_matrix {}, (checksItems_iff (buildProperty_matrix {})).2.2⟩

/-- The numbers of a matrix are not checked. -/
theorem matrix_not_checksItems :
    buildProperty (builders ⟨.ofValue grid, .string ""⟩ 3) "matrix" matrixSchema true 0 {} =
      .ok matrix {} ∧
    matrix.type.HasAt 2 ⟨.minimum, .int 0⟩ ∧ (∃ guards, matrix.guards = .ok guards) ∧
    ¬matrix.ChecksItems := by
  have below : matrix.type.HasAt 2 ⟨.minimum, .int 0⟩ := .inner (.own (List.mem_singleton_self _))
  have guarded : matrix.guards.toOption.any fun _ => true := by decide +kernel
  obtain ⟨guards, given, -⟩ := Except.exists_of_any guarded
  refine ⟨buildProperty_matrix {}, below, ⟨guards, given⟩, ?_⟩
  rintro ⟨guards, -, all⟩
  obtain ⟨guard, -, level, -⟩ := all 2 _ below
  have shallow := guard.depth_le
  omega

end

end SchemaClasses
