import Mathlib.Data.List.Nodup
import SchemaClasses.Guard
import SchemaClasses.Proofs.Outcome

/-!
# Guards of constraints

Constraints of different kinds have a guard each. The guard says what the constraint says, and the
guard of the constraint that a property is required comes first.

## Main definitions

* `Guard.depth`: how deep in a sequence the values are that a guard checks.
* `Guard.IsOf`: a guard makes the check of a constraint.

## Main statements

* `exists_guardsOf_iff`: constraints have guards when their operands can be written.
* `exists_guard_of_mem`: every constraint has a guard.
* `guardsOf_of_required`: the guard that a property is required comes first.
-/

namespace SchemaClasses

/-- How deep the values are that a guard checks: the value itself, or the items of a sequence. -/
def Guard.depth (guard : Guard) : Nat := if guard.element then 1 else 0

theorem Guard.depth_le (guard : Guard) : guard.depth ≤ 1 := by
  unfold Guard.depth
  split <;> omega

structure Guard.IsOf (constraint : Constraint) (guard : Guard) : Prop where
  kind : guard.kind = constraint.kind
  operand : guard.operand = constraint.value
  reported : guard.reported = constraint.kind.reported

/-- Whether a value can be null, and whether it is an item of a sequence, is the same for all guards
on it. -/
structure Guard.IsOn (nullable element : Bool) (guard : Guard) : Prop where
  nullable : guard.nullable = nullable
  element : guard.element = element

section

variable {constraint : Constraint} {constraints : List Constraint} {kind : ConstraintKind}
  {field name : String} {nullable element : Bool} {guard : Guard} {guards : List Guard}

theorem exists_guard_iff :
    (∃ guard, constraint.guard field name nullable element = .ok guard) ↔
      constraint.value.isWritable := by
  unfold Constraint.guard Value.writable
  simp only [Except.bind_eq_ok_iff]
  split <;> simp_all [pure, Except.pure]

theorem of_guard (h : constraint.guard field name nullable element = .ok guard) :
    guard.IsOf constraint ∧ guard.IsOn nullable element := by
  unfold Constraint.guard Value.writable at h
  obtain ⟨operand, written, h⟩ := Except.bind_eq_ok_iff.1 h
  split at written
  · cases written
    cases h
    exact ⟨⟨rfl, rfl, rfl⟩, rfl, rfl⟩
  · cases written

/-! ## The last constraint of a kind -/

theorem lastOfKind?_eq_some (h : lastOfKind? constraints kind = some constraint) :
    constraint ∈ constraints ∧ constraint.kind = kind := by
  have found := List.find?_some h
  have mem := List.mem_of_find?_eq_some h
  exact ⟨List.mem_reverse.1 mem, by simpa using found⟩

theorem exists_lastOfKind? (mem : constraint ∈ constraints) :
    ∃ last, lastOfKind? constraints constraint.kind = some last := by
  refine Option.isSome_iff_exists.1 (List.find?_isSome.2 ⟨constraint, ?_, ?_⟩)
  · exact List.mem_reverse.2 mem
  · simp

/-- Of constraints of different kinds, each is the last one of its kind. -/
theorem lastOfKind?_of_mem (distinct : (constraints.map (·.kind)).Nodup)
    (mem : constraint ∈ constraints) :
    lastOfKind? constraints constraint.kind = some constraint := by
  obtain ⟨last, found⟩ := exists_lastOfKind? mem
  obtain ⟨hlast, same⟩ := lastOfKind?_eq_some found
  rw [found, List.inj_on_of_nodup_map distinct hlast mem same]

theorem mem_precedence (kind : ConstraintKind) : kind ∈ ConstraintKind.precedence := by
  cases kind <;> decide

/-- Constraints of different kinds are the ones that have guards. -/
theorem mem_filterMap_lastOfKind? (distinct : (constraints.map (·.kind)).Nodup) :
    constraint ∈ ConstraintKind.precedence.filterMap (lastOfKind? constraints) ↔
      constraint ∈ constraints := by
  rw [List.mem_filterMap]
  constructor
  · rintro ⟨kind, -, found⟩
    exact (lastOfKind?_eq_some found).1
  · exact fun mem => ⟨constraint.kind, mem_precedence _, lastOfKind?_of_mem distinct mem⟩

/-! ## Lists of guards -/

/-- Constraints of different kinds have guards when their operands can be written. -/
theorem exists_guardsOf_iff (distinct : (constraints.map (·.kind)).Nodup) :
    (∃ guards, guardsOf field name constraints nullable element = .ok guards) ↔
      ∀ constraint ∈ constraints, constraint.value.isWritable := by
  unfold guardsOf
  simp only [Except.exists_mapM_iff, mem_filterMap_lastOfKind? distinct, exists_guard_iff]

/-- Every guard is that of one of the constraints. -/
theorem of_mem_guardsOf (h : guardsOf field name constraints nullable element = .ok guards) :
    ∀ guard ∈ guards,
      guard.IsOn nullable element ∧ ∃ constraint ∈ constraints, guard.IsOf constraint := by
  intro guard mem
  obtain ⟨constraint, last, given⟩ := Except.mem_of_mapM_eq_ok h mem
  obtain ⟨kind, -, found⟩ := List.mem_filterMap.1 last
  obtain ⟨isOf, isOn⟩ := of_guard given
  exact ⟨isOn, constraint, (lastOfKind?_eq_some found).1, isOf⟩

/-- Every one of the constraints has a guard. -/
theorem exists_guard_of_mem (distinct : (constraints.map (·.kind)).Nodup)
    (h : guardsOf field name constraints nullable element = .ok guards)
    (mem : constraint ∈ constraints) :
    ∃ guard ∈ guards, guard.IsOf constraint ∧ guard.IsOn nullable element := by
  obtain ⟨guard, hguard, given⟩ :=
    Except.exists_of_mapM_eq_ok h ((mem_filterMap_lastOfKind? distinct).2 mem)
  exact ⟨guard, hguard, of_guard given⟩

/-- The guard that a property is required comes first. -/
theorem guardsOf_of_required (required : lastOfKind? constraints .required = some constraint)
    (h : guardsOf field name constraints nullable element = .ok guards) :
    ∃ first rest, guards = first :: rest ∧ first.IsOf constraint ∧ first.IsOn nullable element := by
  unfold guardsOf ConstraintKind.precedence at h
  rw [List.filterMap_cons_some required, List.mapM_cons] at h
  obtain ⟨first, given, h⟩ := Except.bind_eq_ok_iff.1 h
  obtain ⟨rest, -, h⟩ := Except.bind_eq_ok_iff.1 h
  cases h
  exact ⟨first, rest, rfl, of_guard given⟩

/-- A guard on a property is one on the value itself, or one on the items of a sequence. -/
theorem of_mem_guards {property : Property} (h : property.guards = .ok guards) :
    ∀ guard ∈ guards,
      (guard.IsOn property.nullable false ∧
        ∃ constraint ∈ property.constraints, guard.IsOf constraint) ∨
      (guard.IsOn property.nullable true ∧
        ∃ item constraints, property.type = .sequence item constraints ∧
          ∃ constraint ∈ constraints, guard.IsOf constraint) := by
  unfold Property.guards at h
  obtain ⟨own, hown, h⟩ := Except.bind_eq_ok_iff.1 h
  intro guard mem
  split at h
  · cases h
  · rename_i item constraints _ isSequence
    obtain ⟨onItems, hitems, h⟩ := Except.bind_eq_ok_iff.1 h
    cases h
    rcases List.mem_append.1 mem with mem | mem
    · exact .inl (of_mem_guardsOf hown guard mem)
    · obtain ⟨isOn, isOf⟩ := of_mem_guardsOf hitems guard mem
      exact .inr ⟨isOn, item, constraints, isSequence, isOf⟩
  · cases h
    exact .inl (of_mem_guardsOf hown guard mem)

end

end SchemaClasses
