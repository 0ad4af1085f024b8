import Mathlib.Data.List.Sort
import SchemaClasses.Proofs.Guard
import SchemaClasses.Proofs.Number.Index

/-!
# Order of guards

A constructor reports the first check that fails, and so the order of the guards of a property is
part of what a class does. The guards on the value come before those on the items of a sequence.
Each of these groups is in order of precedence, with one guard for every kind of constraint, which
is that of the last constraint of the kind. It does not matter in which order constraints of
different kinds were collected.

A message names the operand. An operand with an integer of too many digits cannot be written, and
then the property has no guards.

## Main definitions

* `ConstraintKind.rank`: the place of a kind in the order of precedence.
* `Constraint.IsLastIn`: no constraint of the same kind comes later.
* `Property.IsGroup`: guards on a value, or on items, that are right and in order.
* `Property.ArrangesGuards`: a property has guards, and these are in order.

## Main statements

* `Property.IsGroup.unique`: there is only one way to order the guards.
* `Property.arrangesGuards_iff`: a property has its guards in order exactly when the operands of the
  last constraints can be written, and the guards do not depend on the order of the constraints.
-/

namespace SchemaClasses

def ConstraintKind.rank (kind : ConstraintKind) : Nat := precedence.idxOf kind

def Constraint.IsLastIn (constraint : Constraint) (constraints : List Constraint) : Prop :=
  ∃ before after, constraints = before ++ constraint :: after ∧
    ∀ later ∈ after, later.kind ≠ constraint.kind

namespace Property

variable (property : Property)

def constraintsOn : Bool → List Constraint
  | false => property.constraints
  | true => property.type.itemConstraints

def displayName : Bool → String
  | false => property.name
  | true => property.name ++ " item"

def guardsOn (onItems : Bool) : Except Failure (List Guard) :=
  guardsOf property.name (property.displayName onItems) (property.constraintsOn onItems)
    property.nullable onItems

def HasItemType : Prop := ∀ constraints, property.type ≠ .sequence .absent constraints

/-- The operands that guards are made of can be written: those of the last constraints of each kind,
on the value and on the items. -/
def HasWritableLasts : Prop :=
  ∀ (onItems : Bool) (constraint : Constraint),
    constraint.IsLastIn (property.constraintsOn onItems) → constraint.value.isWritable

/-- Guards on the value of a property, or on its items, in order of precedence. There is one for
each kind of constraint, with the operand of the last constraint of that kind. -/
structure IsGroup (onItems : Bool) (guards : List Guard) : Prop where
  increasing : guards.Pairwise fun first second => first.kind.rank < second.kind.rank
  kinds : ∀ kind, (∃ guard ∈ guards, guard.kind = kind) ↔
    ∃ constraint ∈ property.constraintsOn onItems, constraint.kind = kind
  last : ∀ guard ∈ guards, ∃ constraint : Constraint,
    constraint.IsLastIn (property.constraintsOn onItems) ∧ guard.IsOf constraint
  isOn : ∀ guard ∈ guards, guard.IsOn property.nullable onItems
  field : ∀ guard ∈ guards, guard.field = property.name
  message : ∀ guard ∈ guards,
    guard.message =
      guardMessage guard.kind (property.displayName onItems) (operandText guard.operand)

/-- The guards on the value come first, and then those on the items. There are such guards when the
type is a sequence with constraints on its items. -/
structure IsArranged (guards : List Guard) : Prop where
  groups : ∃ own onItems, guards = own ++ onItems ∧
    property.IsGroup false own ∧ property.IsGroup true onItems
  items : (∃ guard ∈ guards, guard.element) ↔
    ∃ item constraints, property.type = .sequence item constraints ∧ constraints ≠ []

def ArrangesGuards : Prop :=
  ∃ guards, property.guards = .ok guards ∧ property.IsArranged guards

end Property

/-! ## Ranks -/

theorem ConstraintKind.pairwise_precedence :
    precedence.Pairwise fun first second => first.rank < second.rank := by
  decide

/-! ## The last constraint of a kind -/

section

variable {constraint other : Constraint} {constraints : List Constraint} {kind : ConstraintKind}

/-- The last constraint of a kind is the one after which no other of that kind comes. -/
theorem lastOfKind?_eq_some_iff :
    lastOfKind? constraints kind = some constraint ↔
      constraint.IsLastIn constraints ∧ constraint.kind = kind := by
  unfold lastOfKind? Constraint.IsLastIn
  rw [List.find?_eq_some_iff_append]
  -- The list is searched from its end, so what comes before and what comes after change places.
  constructor
  · rintro ⟨same, after, before, split, others⟩
    obtain rfl : constraint.kind = kind := by simpa using same
    refine ⟨⟨before.reverse, after.reverse, ?_, fun later mem => ?_⟩, rfl⟩
    · simpa using congrArg List.reverse split
    · simpa using others later (List.mem_reverse.1 mem)
  · rintro ⟨⟨before, after, rfl, others⟩, rfl⟩
    refine ⟨by simp, after.reverse, before.reverse, by simp, fun later mem => ?_⟩
    simpa using others later (List.mem_reverse.1 mem)

theorem Constraint.IsLastIn.mem (h : constraint.IsLastIn constraints) :
    constraint ∈ constraints :=
  (lastOfKind?_eq_some (lastOfKind?_eq_some_iff.2 ⟨h, rfl⟩)).1

theorem Constraint.IsLastIn.unique (h : constraint.IsLastIn constraints)
    (h' : other.IsLastIn constraints) (same : constraint.kind = other.kind) :
    constraint = other := by
  have found := lastOfKind?_eq_some_iff.2 ⟨h, same⟩
  rw [lastOfKind?_eq_some_iff.2 ⟨h', rfl⟩] at found
  exact (Option.some.inj found).symm

/-- There is a last constraint of each kind that occurs. -/
theorem exists_isLastIn_iff :
    (∃ constraint : Constraint, constraint.IsLastIn constraints ∧ constraint.kind = kind) ↔
      ∃ constraint ∈ constraints, constraint.kind = kind := by
  constructor
  · rintro ⟨constraint, last, same⟩
    exact ⟨constraint, last.mem, same⟩
  · rintro ⟨constraint, mem, rfl⟩
    obtain ⟨last, found⟩ := exists_lastOfKind? mem
    exact ⟨last, lastOfKind?_eq_some_iff.1 found⟩

theorem mem_filterMap_precedence_iff :
    constraint ∈ ConstraintKind.precedence.filterMap (lastOfKind? constraints) ↔
      constraint.IsLastIn constraints := by
  simp [List.mem_filterMap, mem_precedence, lastOfKind?_eq_some_iff]

/-- The last constraints are in order of precedence. -/
theorem pairwise_filterMap_precedence :
    (ConstraintKind.precedence.filterMap (lastOfKind? constraints)).Pairwise
      fun first second => first.kind.rank < second.kind.rank := by
  refine List.Pairwise.filterMap _ ?_ ConstraintKind.pairwise_precedence
  intro kind kind' lt first found second found'
  rwa [(lastOfKind?_eq_some found).2, (lastOfKind?_eq_some found').2]

/-- Constraints of different kinds are the last ones of their kinds in any order. -/
theorem lastOfKind?_of_perm {others : List Constraint}
    (distinct : (constraints.map (·.kind)).Nodup) (perm : constraints.Perm others) :
    lastOfKind? constraints = lastOfKind? others := by
  have distinct' : (others.map (·.kind)).Nodup := (perm.map _).nodup_iff.1 distinct
  funext kind
  apply Option.ext
  intro constraint
  constructor
  · intro found
    obtain ⟨mem, rfl⟩ := lastOfKind?_eq_some found
    exact lastOfKind?_of_mem distinct' (perm.mem_iff.1 mem)
  · intro found
    obtain ⟨mem, rfl⟩ := lastOfKind?_eq_some found
    exact lastOfKind?_of_mem distinct (perm.mem_iff.2 mem)

end

/-! ## Guards of a list of constraints -/

section

variable {constraint : Constraint} {constraints : List Constraint} {field name : String}
  {nullable element : Bool} {guard : Guard} {guards : List Guard} {failure : Failure}

theorem texts_of_guard (h : constraint.guard field name nullable element = .ok guard) :
    guard.field = field ∧
      guard.message = guardMessage guard.kind name (operandText guard.operand) := by
  obtain ⟨operand, -, h⟩ := Except.bind_eq_ok_iff.1 h
  cases h
  exact ⟨rfl, rfl⟩

/-- A guard fails only for an operand that is too long to be written. -/
theorem guard_eq_error (h : constraint.guard field name nullable element = .error failure) :
    failure = .invalidValue .unwritableInteger := by
  rcases Except.bind_eq_error_iff.1 h with failed | ⟨operand, -, h⟩
  · unfold Value.writable at failed
    split at failed
    · cases failed
    · exact (Except.error.inj failed).symm
  · cases h

theorem guardsOf_eq_error (h : guardsOf field name constraints nullable element = .error failure) :
    failure = .invalidValue .unwritableInteger := by
  obtain ⟨constraint, -, failed⟩ := Except.exists_of_mapM_eq_error h
  exact guard_eq_error failed

theorem exists_guardsOf_iff_lasts :
    (∃ guards, guardsOf field name constraints nullable element = .ok guards) ↔
      ∀ constraint : Constraint, constraint.IsLastIn constraints → constraint.value.isWritable := by
  unfold guardsOf
  simp only [Except.exists_mapM_iff, mem_filterMap_precedence_iff, exists_guard_iff]

/-- The guards are of the same kinds as the last constraints, in the same order. -/
theorem kinds_of_guardsOf (h : guardsOf field name constraints nullable element = .ok guards) :
    guards.map (·.kind) =
      (ConstraintKind.precedence.filterMap (lastOfKind? constraints)).map (·.kind) :=
  Except.map_of_mapM_eq_ok (fun _ _ given => (of_guard given).1.kind) h

theorem guardsOf_of_perm {others : List Constraint}
    (distinct : (constraints.map (·.kind)).Nodup) (perm : constraints.Perm others) :
    guardsOf field name constraints nullable element =
      guardsOf field name others nullable element := by
  unfold guardsOf
  rw [lastOfKind?_of_perm distinct perm]

end

/-! ## Guards of a property -/

namespace Property

variable {property : Property} {onItems : Bool} {guards others : List Guard}

/-- Guards on one value are in order of precedence, with the operands of the last constraints. -/
theorem isGroup_of_guardsOn (h : property.guardsOn onItems = .ok guards) :
    property.IsGroup onItems guards := by
  have kinds := kinds_of_guardsOf h
  have each : ∀ guard ∈ guards, ∃ constraint : Constraint,
      constraint.IsLastIn (property.constraintsOn onItems) ∧
        constraint.guard property.name (property.displayName onItems) property.nullable onItems =
          .ok guard := by
    intro guard mem
    obtain ⟨constraint, last, given⟩ := Except.mem_of_mapM_eq_ok h mem
    exact ⟨constraint, mem_filterMap_precedence_iff.1 last, given⟩
  constructor
  case increasing =>
    have sorted : (guards.map (·.kind)).Pairwise fun first second => first.rank < second.rank := by
      rw [kinds, List.pairwise_map]
      exact pairwise_filterMap_precedence
    rwa [List.pairwise_map] at sorted
  case kinds =>
    intro kind
    rw [← List.mem_map, kinds, List.mem_map]
    simp only [mem_filterMap_precedence_iff]
    exact exists_isLastIn_iff
  case last =>
    intro guard mem
    obtain ⟨constraint, last, given⟩ := each guard mem
    exact ⟨constraint, last, (of_guard given).1⟩
  case isOn =>
    intro guard mem
    obtain ⟨_, -, given⟩ := each guard mem
    exact (of_guard given).2
  case field =>
    intro guard mem
    obtain ⟨_, -, given⟩ := each guard mem
    exact (texts_of_guard given).1
  case message =>
    intro guard mem
    obtain ⟨_, -, given⟩ := each guard mem
    exact (texts_of_guard given).2

theorem exists_sequence_of_mem {constraint : Constraint}
    (mem : constraint ∈ property.constraintsOn true) :
    ∃ item constraints, property.type = .sequence item constraints ∧ constraints ≠ [] := by
  unfold constraintsOn at mem
  cases shape : property.type with
  | sequence item constraints =>
    rw [shape] at mem
    exact ⟨item, constraints, rfl, List.ne_nil_of_mem mem⟩
  | _ =>
    rw [shape] at mem
    cases mem

/-- Guards of the same kind in such groups are equal. -/
theorem IsGroup.eq_of_kind (h : property.IsGroup onItems guards)
    (h' : property.IsGroup onItems others) {guard other : Guard} (mem : guard ∈ guards)
    (mem' : other ∈ others) (same : guard.kind = other.kind) : guard = other := by
  obtain ⟨constraint, last, isOf⟩ := h.last guard mem
  obtain ⟨constraint', last', isOf'⟩ := h'.last other mem'
  obtain rfl : constraint = constraint' :=
    last.unique last' (by rw [← isOf.kind, ← isOf'.kind, same])
  have operand : guard.operand = other.operand := isOf.operand.trans isOf'.operand.symm
  have reported : guard.reported = other.reported := isOf.reported.trans isOf'.reported.symm
  have isOn := h.isOn guard mem
  have isOn' := h'.isOn other mem'
  have nullable : guard.nullable = other.nullable := isOn.nullable.trans isOn'.nullable.symm
  have element : guard.element = other.element := isOn.element.trans isOn'.element.symm
  have field : guard.field = other.field := (h.field guard mem).trans (h'.field other mem').symm
  have message : guard.message = other.message := by
    rw [h.message guard mem, h'.message other mem', same, operand]
  cases guard
  cases other
  simp_all

theorem IsGroup.subset (h : property.IsGroup onItems guards)
    (h' : property.IsGroup onItems others) : guards ⊆ others := by
  intro guard mem
  obtain ⟨other, mem', same⟩ := (h'.kinds guard.kind).2 ((h.kinds guard.kind).1 ⟨guard, mem, rfl⟩)
  rwa [h.eq_of_kind h' mem mem' same.symm]

/-- There is only one such group on a value, or on items. -/
theorem IsGroup.unique (h : property.IsGroup onItems guards)
    (h' : property.IsGroup onItems others) : guards = others := by
  -- No two guards of a group have the same rank, so their members determine the lists.
  have antisymm : Std.Antisymm fun first second : Guard => first.kind.rank < second.kind.rank :=
    ⟨fun _ _ lt gt => absurd lt (Nat.lt_asymm gt)⟩
  have irrefl : Std.Irrefl fun first second : Guard => first.kind.rank < second.kind.rank :=
    ⟨fun _ => Nat.lt_irrefl _⟩
  exact List.Pairwise.eq_of_mem_iff h.increasing h'.increasing fun guard =>
    ⟨fun mem => h.subset h' mem, fun mem => h'.subset h mem⟩

/-- The guards of a property are the two groups one after the other. -/
theorem guards_eq (typed : property.HasItemType) :
    property.guards = do
      let own ← property.guardsOn false
      let onItems ← property.guardsOn true
      return own ++ onItems := by
  unfold Property.guards
  refine bind_congr fun own => ?_
  cases shape : property.type with
  | sequence item constraints =>
    cases item with
    | absent => exact absurd shape (typed constraints)
    | _ => simp [guardsOn, constraintsOn, displayName, shape, TypeRef.itemConstraints]
  | _ =>
    have none : property.guardsOn true = .ok [] := by
      simp only [guardsOn, constraintsOn, shape, TypeRef.itemConstraints]
      rfl
    simp [none, pure, Except.pure, bind, Except.bind]

theorem hasItemType_of_guards (h : property.guards = .ok guards) : property.HasItemType := by
  intro constraints shape
  obtain ⟨own, -, h⟩ := Except.bind_eq_ok_iff.1 h
  rw [shape] at h
  cases h

theorem guards_eq_ok_iff_groups (typed : property.HasItemType) :
    property.guards = .ok guards ↔ ∃ own onItems,
      property.guardsOn false = .ok own ∧ property.guardsOn true = .ok onItems ∧
        guards = own ++ onItems := by
  rw [guards_eq typed]
  simp [Except.bind_eq_ok_iff, pure, Except.pure, eq_comm (a := guards)]

/-- The guards of a property are those on the value and then those on the items. -/
theorem isArranged_of_guards (h : property.guards = .ok guards) : property.IsArranged guards := by
  obtain ⟨own, onItems, hown, hitems, rfl⟩ :=
    (guards_eq_ok_iff_groups (hasItemType_of_guards h)).1 h
  have first := isGroup_of_guardsOn hown
  have second := isGroup_of_guardsOn hitems
  refine ⟨⟨own, onItems, rfl, first, second⟩, ?_⟩
  constructor
  · rintro ⟨guard, mem, element⟩
    rcases List.mem_append.1 mem with mem | mem
    · rw [(first.isOn guard mem).element] at element
      cases element
    · obtain ⟨constraint, given, -⟩ := (second.kinds _).1 ⟨guard, mem, rfl⟩
      exact exists_sequence_of_mem given
  · rintro ⟨item, constraints, shape, nonempty⟩
    obtain ⟨constraint, mem⟩ := List.exists_mem_of_ne_nil constraints nonempty
    have given : constraint ∈ property.constraintsOn true := by
      simpa [constraintsOn, shape, TypeRef.itemConstraints] using mem
    obtain ⟨guard, mem, -⟩ := (second.kinds _).2 ⟨constraint, given, rfl⟩
    exact ⟨guard, List.mem_append_right _ mem, (second.isOn guard mem).element⟩

/-- There are guards if the operands that they show can be written. -/
theorem exists_guards_iff_lasts (typed : property.HasItemType) :
    (∃ guards, property.guards = .ok guards) ↔ property.HasWritableLasts := by
  have group (onItems : Bool) : (∃ guards, property.guardsOn onItems = .ok guards) ↔
      ∀ constraint : Constraint, constraint.IsLastIn (property.constraintsOn onItems) →
        constraint.value.isWritable := exists_guardsOf_iff_lasts
  simp only [guards_eq_ok_iff_groups typed, HasWritableLasts, Bool.forall_bool, ← group]
  constructor
  · rintro ⟨_, own, onItems, hown, hitems, -⟩
    exact ⟨⟨own, hown⟩, onItems, hitems⟩
  · rintro ⟨⟨own, hown⟩, onItems, hitems⟩
    exact ⟨_, own, onItems, hown, hitems, rfl⟩

/-- Guards fail if an operand that they show is too long to be written. -/
theorem guards_eq_error (typed : property.HasItemType) (unwritable : ¬property.HasWritableLasts) :
    property.guards = .error (.invalidValue .unwritableInteger) := by
  cases outcome : property.guards with
  | ok guards => exact absurd ((exists_guards_iff_lasts typed).1 ⟨guards, outcome⟩) unwritable
  | error failure =>
    rw [guards_eq typed] at outcome
    rcases Except.bind_eq_error_iff.1 outcome with failed | ⟨own, -, outcome⟩
    · rw [guardsOf_eq_error failed]
    · rcases Except.bind_eq_error_iff.1 outcome with failed | ⟨onItems, -, outcome⟩
      · rw [guardsOf_eq_error failed]
      · cases outcome

/-- A property has its guards in order exactly when the operands of the last constraints of each
kind can be written, and fails to have guards otherwise. Another order of constraints of different
kinds gives the same guards. -/
theorem arrangesGuards_iff (property : Property) :
    (property.ArrangesGuards ↔ property.HasItemType ∧ property.HasWritableLasts) ∧
    (∀ guards, property.guards = .ok guards → property.IsArranged guards) ∧
    (property.HasItemType → ¬property.HasWritableLasts →
      property.guards = .error (.invalidValue .unwritableInteger)) ∧
    (∀ constraints, (property.constraints.map (·.kind)).Nodup →
      property.constraints.Perm constraints →
        { property with constraints }.guards = property.guards) ∧
    (∀ item constraints others, property.type = .sequence item constraints →
      (constraints.map (·.kind)).Nodup → constraints.Perm others →
        { property with type := .sequence item others }.guards = property.guards) := by
  refine ⟨?_, fun _ => isArranged_of_guards, guards_eq_error, ?_, ?_⟩
  · constructor
    · rintro ⟨guards, h, -⟩
      have typed := hasItemType_of_guards h
      exact ⟨typed, (exists_guards_iff_lasts typed).1 ⟨guards, h⟩⟩
    · rintro ⟨typed, writable⟩
      obtain ⟨guards, h⟩ := (exists_guards_iff_lasts typed).2 writable
      exact ⟨guards, h, isArranged_of_guards h⟩
  · intro constraints distinct perm
    unfold Property.guards
    rw [guardsOf_of_perm distinct perm]
  · intro item constraints others shape distinct perm
    unfold Property.guards
    rw [shape]
    cases item with
    | absent => rfl
    | _ => simp only [guardsOf_of_perm distinct perm]

end Property

def tagList : Property where
  name := "tags"
  type := .sequence (.primitive .string .null) [⟨.pattern, .string "^x"⟩, ⟨.minLength, .int 2⟩]
  nullable := true
  constraints := [⟨.uniqueItems, .bool true⟩, ⟨.minItems, .int 1⟩]

theorem arrangesGuards_iff_tagList :
    tagList.ArrangesGuards ∧
      { tagList with constraints := tagList.constraints.reverse }.guards = tagList.guards := by
  obtain ⟨arranges, -, -, reordered, -⟩ := Property.arrangesGuards_iff tagList
  have operands : ∀ onItems, ∀ constraint ∈ tagList.constraintsOn onItems,
      constraint.value.isWritable := by decide +kernel
  refine ⟨arranges.2 ⟨fun _ => nofun, fun onItems constraint last => ?_⟩, ?_⟩
  · exact operands onItems constraint last.mem
  · exact reordered _ (by decide) (List.reverse_perm _).symm

def longLength : Constraint := ⟨.minLength, .int (Binary64.powerOfTen maxIntegerDigits)⟩

def longText : Property where
  name := "text"
  type := .primitive .string .null
  constraints := [⟨.required, .null⟩, longLength]

/-- A long integer cannot be written in a message, and then there are no guards. -/
theorem longText_not_arrangesGuards :
    longText.guards = .error (.invalidValue .unwritableInteger) ∧ ¬longText.ArrangesGuards := by
  have typed : longText.HasItemType := fun _ => nofun
  have last : longLength.IsLastIn (longText.constraintsOn false) :=
    ⟨[⟨.required, .null⟩], [], rfl, nofun⟩
  have unwritable : ¬longText.HasWritableLasts := fun writable =>
    not_isWritableInteger (Nat.le_refl _) (writable false longLength last)
  have failed := Property.guards_eq_error typed unwritable
  refine ⟨failed, ?_⟩
  rintro ⟨guards, h, -⟩
  exact nomatch failed.symm.trans h

end SchemaClasses
