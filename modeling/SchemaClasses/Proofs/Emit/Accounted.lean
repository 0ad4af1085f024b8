import SchemaClasses.Emit.File
import SchemaClasses.Proofs.Build.Described
import SchemaClasses.Proofs.Emit.Templates
import SchemaClasses.Proofs.Guard

/-!
# What accounts for the failures of writing

The types, default values and guards of properties that are those of schemas of a document can be
written, unless something has no form in the language or a number of the document cannot be written.

## Main definitions

* `Emit.Accounted`: a step of writing for whose failures the document accounts.
* `Guard.Compares`: a guard compares items of a known type, if it compares any.

## Main statements

* `typeName_accounted`, `defaultValue_accounted`: what writing types and default values fails with.
* `writtenGuards_accounted`, `guardLines_accounted`: what writing guards fails with.
-/

namespace SchemaClasses

/-! ## Reports -/

/-- What is said about a type that has not been determined is shorter than all other reports. -/
theorem noType_of_length {construct : String} (long : 9 < construct.length) :
    construct ≠ "type None" := by
  rintro rfl
  exact absurd long (by decide)

theorem lt_length_append_left {first second : String} {n : Nat} (h : n < first.length) :
    n < (first ++ second).length := by
  rw [String.length_append]
  omega

theorem lt_length_append_right {first second : String} {n : Nat} (h : n < second.length) :
    n < (first ++ second).length := by
  rw [String.length_append]
  omega

/-! ## Steps -/

namespace Emit

variable {α β : Type}

def Accounted (root : Node) (step : Emit α) : Prop :=
  ∀ needs failure needs', step needs = .error failure needs' → root.Causes failure

def Gives (step : Emit α) (x : α) : Prop := ∃ needs needs', step needs = .ok x needs'

theorem bind_apply (step : Emit α) (next : α → Emit β) (needs : Requirements) :
    (step >>= next) needs = match step needs with
      | .ok x needs' => next x needs'
      | .error failure needs' => .error failure needs' := by
  change EStateM.bind step next needs = _
  unfold EStateM.bind
  cases step needs <;> rfl

theorem bind_eq_ok_iff {step : Emit α} {next : α → Emit β} {needs needs' : Requirements} {y : β} :
    (step >>= next) needs = .ok y needs' ↔
      ∃ x between, step needs = .ok x between ∧ next x between = .ok y needs' := by
  rw [bind_apply]
  cases step needs <;> simp

theorem ofExcept_eq_ok_iff {e : Except Failure α} {needs needs' : Requirements} {x : α} :
    Emit.ofExcept e needs = .ok x needs' ↔ e = .ok x ∧ needs = needs' := by
  cases e with
  | ok y =>
    change (EStateM.Result.ok y needs : EStateM.Result Failure Requirements α) = _ ↔ _
    simp
  | error failure => exact iff_of_false nofun nofun

theorem Gives.of_bind {step : Emit α} {next : α → Emit β} {y : β} (h : (step >>= next).Gives y) :
    ∃ x, step.Gives x ∧ (next x).Gives y := by
  obtain ⟨needs, needs', run⟩ := h
  obtain ⟨x, between, first, rest⟩ := bind_eq_ok_iff.1 run
  exact ⟨x, ⟨needs, between, first⟩, ⟨between, needs', rest⟩⟩

theorem Gives.of_pure {x y : α} (h : (Pure.pure x : Emit α).Gives y) : x = y := by
  obtain ⟨_, _, run⟩ := h
  cases run
  rfl

theorem Gives.of_ofExcept {e : Except Failure α} {x : α} (h : (Emit.ofExcept e).Gives x) :
    e = .ok x := by
  obtain ⟨needs, needs', run⟩ := h
  exact (ofExcept_eq_ok_iff.1 run).1

namespace Accounted

variable {root : Node} {step : Emit α} {next : α → Emit β}

theorem pure (root : Node) (x : α) : Accounted root (Pure.pure x) := by
  intro _ _ _ run
  cases run

theorem throw {failure : Failure} (cause : root.Causes failure) :
    Accounted root (throw failure : Emit α) := by
  intro _ _ _ run
  cases run
  exact cause

theorem unsupported (root : Node) (language : TargetLanguage) {construct : String}
    (noType : construct ≠ "type None") :
    Accounted root (Emit.unsupported language construct : Emit α) :=
  .throw (.target _ noType)

theorem ofExcept {e : Except Failure α} (h : root.Accounts e) :
    Accounted root (Emit.ofExcept e) := by
  intro _ _ _ run
  cases e with
  | ok x => cases run
  | error failure =>
    cases run
    exact h _ rfl

theorem modify (root : Node) (f : Requirements → Requirements) :
    Accounted root (modify f : Emit Unit) := by
  intro _ _ _ run
  cases run

theorem get (root : Node) : Accounted root (get : Emit Requirements) := by
  intro _ _ _ run
  cases run

theorem set (root : Node) (needs : Requirements) : Accounted root (set needs : Emit PUnit) := by
  intro _ _ _ run
  cases run

theorem bind (h : Accounted root step) (k : ∀ x, step.Gives x → Accounted root (next x)) :
    Accounted root (step >>= next) := by
  intro needs failure needs' run
  rw [bind_apply] at run
  cases first : step needs with
  | error failure' between =>
    rw [first] at run
    cases run
    exact h _ _ _ first
  | ok x between =>
    rw [first] at run
    exact k x ⟨needs, between, first⟩ _ _ _ run

theorem map (h : Accounted root step) (f : α → β) : Accounted root (f <$> step) := by
  rw [map_eq_pure_bind]
  exact bind h fun x _ => pure root (f x)

theorem mapM {f : α → Emit β} {as : List α} (h : ∀ a ∈ as, Accounted root (f a)) :
    Accounted root (as.mapM f) := by
  induction as with
  | nil => exact pure root []
  | cons a rest ih =>
    rw [List.mapM_cons]
    apply bind (h a List.mem_cons_self)
    intro b _
    apply bind (ih fun a' mem => h a' (List.mem_cons_of_mem a mem))
    intro bs _
    exact pure root (b :: bs)

theorem filterAuxM {p : α → Emit Bool} {as : List α} (h : ∀ a ∈ as, Accounted root (p a))
    (kept : List α) : Accounted root (as.filterAuxM p kept) := by
  induction as generalizing kept with
  | nil => exact pure root kept
  | cons a rest ih =>
    apply bind (h a List.mem_cons_self)
    intro _ _
    exact ih (fun a' mem => h a' (List.mem_cons_of_mem a mem)) _

theorem filterM {p : α → Emit Bool} {as : List α} (h : ∀ a ∈ as, Accounted root (p a)) :
    Accounted root (as.filterM p) := by
  apply bind (filterAuxM h [])
  intro kept _
  exact pure root kept.reverse

/-- A loop over a list fails where one of its steps does. -/
theorem forIn {f : α → Emit PUnit} {as : List α} (h : ∀ a ∈ as, Accounted root (f a)) :
    Accounted root (ForIn.forIn as PUnit.unit fun a _ => do
      f a
      Pure.pure (ForInStep.yield PUnit.unit)) := by
  induction as with
  | nil => exact pure root _
  | cons a rest ih =>
    rw [List.forIn_cons]
    apply bind
    · exact bind (h a List.mem_cons_self) fun _ _ => pure root _
    · intro step gives
      obtain ⟨_, -, gives⟩ := Gives.of_bind gives
      obtain rfl := Gives.of_pure gives
      exact ih fun a' mem => h a' (List.mem_cons_of_mem a mem)

end Accounted

theorem Gives.mem_of_filterAuxM {p : α → Emit Bool} {as kept kept' : List α}
    (h : (as.filterAuxM p kept).Gives kept') : ∀ a ∈ kept', a ∈ as ∨ a ∈ kept := by
  induction as generalizing kept with
  | nil =>
    obtain rfl := Gives.of_pure h
    intro a mem
    exact .inr mem
  | cons first rest ih =>
    obtain ⟨keeps, -, h⟩ := Gives.of_bind h
    intro a mem
    rcases ih h a mem with mem | mem
    · exact .inl (List.mem_cons_of_mem _ mem)
    · cases keeps with
      | true =>
        rcases List.mem_cons.1 mem with rfl | mem
        · exact .inl List.mem_cons_self
        · exact .inr mem
      | false => exact .inr mem

theorem Gives.mem_of_filterM {p : α → Emit Bool} {as kept : List α} (h : (as.filterM p).Gives kept) :
    ∀ a ∈ kept, a ∈ as := by
  obtain ⟨reversed, collected, result⟩ := Gives.of_bind h
  obtain rfl := Gives.of_pure result
  intro a mem
  rcases Gives.mem_of_filterAuxM collected a (List.mem_reverse.1 mem) with mem | mem
  · exact mem
  · cases mem

end Emit

/-! ## Names and types -/

section

variable {root : Node} {context : Context}

open Emit

theorem requireSymbol_accounted (root : Node) (module name : String) :
    Accounted root (Emit.requireSymbol module name) := .modify root _

/-- A name is qualified, or refused where it is hidden and there is no package. -/
theorem qualify_accounted (root : Node) (context : Context) (head : ClassId) (inner : List String) :
    Accounted root (context.qualify head inner) := by
  unfold Context.qualify
  simp only
  split
  · split
    · exact .pure root _
    · apply Accounted.bind (.modify root _)
      intro _ _
      exact .pure root _
  · split
    · exact .pure root _
    · split
      · exact .pure root _
      · exact .unsupported root _ (noType_of_length (lt_length_append_right (by decide)))

theorem superclassName_accounted (root : Node) (context : Context) (id base : ClassId) :
    Accounted root (context.superclassName id base) :=
  qualify_accounted root _ _ _

theorem primitiveText_accounted (root : Node) (language : TargetLanguage) (kind : PrimitiveKind)
    (nullable : Bool) : Accounted root (primitiveText language kind nullable) := by
  unfold primitiveText
  extract_lets name finish imported
  have finishes (done : Unit) : Accounted root (finish done) := by
    unfold finish
    split
    · exact .pure root _
    · exact .pure root _
  have goesOn (done : Unit) : Accounted root (imported done) := by
    unfold imported
    split
    · exact .bind (.modify root _) fun done _ => finishes done
    · exact finishes ()
  split
  · exact .bind (.modify root _) fun done _ => goesOn done
  · exact goesOn ()

theorem typeName_accounted (context : Context) {size : Nat} {type : TypeRef}
    (described : type.Described root size) (nullable : Bool) :
    Accounted root (context.typeName nullable type) := by
  have collection (name : String) : Accounted root (requireCollection context.language name) := by
    unfold requireCollection
    split
    · exact .modify root _
    · exact .pure root _
  have finish (name : String) : Accounted root (Context.typeName.finish context nullable name) :=
    .pure root _
  induction described generalizing nullable with
  | primitive kind format =>
    exact .bind (primitiveText_accounted root _ _ _) fun name _ => finish name
  | ofClass inside => exact .bind (qualify_accounted root _ _ _) fun name _ => finish name
  | sequence described keywords ih =>
    apply Accounted.bind (collection "List")
    intro _ _
    apply Accounted.bind (ih _ fun name => .pure root _)
    intro inner _
    exact finish _
  | map described ih =>
    apply Accounted.bind (collection "Map")
    intro _ _
    apply Accounted.bind (ih _ fun name => .pure root _)
    intro inner _
    exact finish _
  | enum inside => exact .bind (qualify_accounted root _ _ _) fun name _ => finish name

/-! ## Identifiers and defaults -/

theorem fieldName_accounts (root : Node) (language : TargetLanguage) (property : Property) :
    root.Accounts (fieldName language property) := by
  unfold fieldName
  split
  · exact .error (.target _ (noType_of_length (lt_length_append_right (by decide))))
  · split
    · exact .ok _
    · exact .ok _

theorem enumConstant_accounts (root : Node) (language : TargetLanguage) (enumName value : String) :
    root.Accounts (enumConstant language enumName value) := by
  unfold enumConstant
  extract_lets constant reason
  split
  · exact .ok _
  · apply Node.Accounts.error
    apply Node.Causes.target
    apply noType_of_length
    -- What the report begins with is long enough already.
    exact lt_length_append_left (lt_length_append_left (lt_length_append_left
      (lt_length_append_left (by decide))))

/-- A default that a type accepts has a form in every language, unless a number in it is too
long. -/
theorem plainDefault_accounts {node : Node} (within : root.Within node) (language : TargetLanguage)
    {type : TypeRef} (fits : isDefaultFor type (node.valueOf "default")) :
    root.Accounts (plainDefault language type.primitive? (node.valueOf "default")) := by
  have shown := Node.writable_accounts within "default"
  have float (number : type.primitive? = some .number) :
      root.Accounts (floatDefault (node.valueOf "default")) := by
    cases type with
    | primitive kind format =>
      obtain rfl : kind = .number := by simpa [TypeRef.primitive?] using number
      cases given : node.valueOf "default" with
      | int n =>
        simp only [floatDefault]
        cases large : Binary64.ofInt? n with
        | some x => exact .ok _
        | none => exact .error (.largeDefault within given large)
      | float x => exact .ok _
      | _ =>
        rw [given] at fits
        simp [isDefaultFor] at fits
    | _ => cases number
  unfold plainDefault
  split
  · exact .ok _
  · exact .ok _
  · split
    · rename_i number
      exact float number
    · exact .bind shown fun _ _ => .ok _
    · exact .bind shown fun _ _ => .ok _

/-- A default is written by the type of its property: an enum constant, or a literal. -/
theorem defaultValue_accounted (context : Context) {size : Nat} {node : Node} {type : TypeRef}
    (within : root.Within node) (described : type.Described root size)
    (fits : isDefaultFor type (node.valueOf "default")) :
    Accounted root (context.defaultValue (node.valueOf "default") type) := by
  have plain := plainDefault_accounts within context.language fits
  cases described with
  | enum inside =>
    rename_i definition
    have constant : root.Accounts (enumConstantOf context.language definition.name
        (node.valueOf "default")) := by
      cases given : node.valueOf "default" with
      | string text => exact enumConstant_accounts root _ _ _
      | _ =>
        rw [given] at fits
        simp [isDefaultFor] at fits
    unfold Context.defaultValue
    simp only
    split
    · apply Accounted.bind (.pure root _)
      intro owner _
      exact .bind (.ofExcept constant) fun _ _ => .pure root _
    · apply Accounted.bind (qualify_accounted root _ _ _)
      intro owner _
      exact .bind (.ofExcept constant) fun _ _ => .pure root _
  | primitive kind format => exact .ofExcept plain
  | ofClass inside => exact .ofExcept plain
  | sequence described keywords => exact .ofExcept plain
  | map described => exact .ofExcept plain

/-! ## Guards -/

/-- An operand fails only for an integer that is too long. -/
theorem operand_accounts {node : Node} (within : root.Within node) {value : Value}
    (operand : Constraint.Operand node value) : root.Accounts value.writable := by
  cases operand with
  | given key => exact Node.writable_accounts within key
  | count given whole =>
    unfold Value.writable
    split
    · exact .ok _
    · rename_i long
      exact .error (.longCount within given whole long)

/-- Guards fail over the operands of their constraints, which stand in the schema. -/
theorem guardsOf_accounts {type : TypeRef} {constraints : List Constraint}
    (known : ∀ constraint ∈ constraints, constraint.IsKnown root type) (field name : String)
    (nullable element : Bool) :
    root.Accounts (guardsOf field name constraints nullable element) := by
  apply Node.Accounts.mapM
  intro constraint mem
  obtain ⟨kind, -, last⟩ := List.mem_filterMap.1 mem
  have operand : root.Accounts constraint.value.writable := by
    rcases known constraint (lastOfKind?_eq_some last).1 with rfl | ⟨node, within, stems⟩
    · exact .ok _
    · exact operand_accounts within stems.operand
  exact .bind operand fun _ _ => .ok _

/-- The guard compares items of a known type with each other, if it compares any. -/
def Guard.Compares (root : Node) (size : Nat) (property : Property) (guard : Guard) : Prop :=
  guard.kind = .uniqueItems →
    ∃ type, comparedType guard property = .ok type ∧ type.Described root size

/-- The constraint that items are unique stands on a sequence. -/
theorem Constraint.IsKnown.sequence {size : Nat} {type : TypeRef} {constraint : Constraint}
    (known : constraint.IsKnown root type) (described : type.Described root size)
    (unique : constraint.kind = .uniqueItems) :
    ∃ item constraints, type = .sequence item constraints ∧ item.Described root size := by
  rcases known with rfl | ⟨node, -, stems⟩
  · cases unique
  · have isSequence := stems.unique unique
    cases described with
    | sequence described keywords => exact ⟨_, _, rfl, described⟩
    | _ => cases isSequence

/-- The guards on the value and on the items of a property fail over their operands only. -/
theorem guards_accounts {size : Nat} {property : Property} (described : property.Described root size) :
    root.Accounts property.guards := by
  have isType := described.type
  unfold Property.guards
  apply Node.Accounts.bind (guardsOf_accounts described.constraints _ _ _ _)
  intro own _
  split
  · rename_i noItem
    rw [noItem] at isType
    cases isType with
    | sequence isItem _ => cases isItem
  · rename_i item constraints _ isSequence
    rw [isSequence] at isType
    cases isType with
    | sequence isItem keywords =>
      have known : ∀ constraint ∈ constraints, constraint.IsKnown root item :=
        fun constraint mem => .inr (keywords constraint mem)
      exact .bind (guardsOf_accounts known _ _ _ _) fun _ _ => .ok _
  · exact .ok _

/-- The guard of distinct items compares values of the item type, which is known. -/
theorem compares_of_mem_guards {size : Nat} {property : Property}
    (described : property.Described root size) {guards : List Guard}
    (h : property.guards = .ok guards) :
    ∀ guard ∈ guards, guard.Compares root size property := by
  intro guard mem unique
  rcases of_mem_guards h guard mem with
    ⟨onValue, constraint, hconstraint, isOf⟩ | ⟨onItems, item, constraints, isSequence, constraint,
      hconstraint, isOf⟩
  · have known := described.constraints constraint hconstraint
    obtain ⟨compared, _, type, isItem⟩ := known.sequence described.type (isOf.kind.symm.trans unique)
    refine ⟨compared, ?_, isItem⟩
    simp [comparedType, onValue.element, type, TypeRef.item?]
  · have isType := described.type
    rw [isSequence] at isType
    cases isType with
    | sequence isItem keywords =>
      have known : constraint.IsKnown root item := .inr (keywords constraint hconstraint)
      obtain ⟨compared, _, type, isInner⟩ := known.sequence isItem (isOf.kind.symm.trans unique)
      refine ⟨compared, ?_, isInner⟩
      simp [comparedType, onItems.element, isSequence, type, TypeRef.item?, bind, Except.bind]

theorem impliedByType_accounted (context : Context) {size : Nat} {property : Property}
    (described : property.Described root size) (guard : Guard) :
    Accounted root (context.impliedByType property guard) := by
  unfold Context.impliedByType
  split
  · exact .pure root _
  · exact .bind (typeName_accounted context described.type _) fun _ _ => .pure root _
  · exact .pure root _

/-- Guards are left out by the type of their property, which must be written for that. -/
theorem writtenGuards_accounted (context : Context) {size : Nat} {property : Property}
    (described : property.Described root size) :
    Accounted root (context.writtenGuards property) := by
  unfold Context.writtenGuards
  split
  · exact .pure root _
  · apply Accounted.bind (.ofExcept (guards_accounts described))
    intro guards _
    have implied (guard : Guard) : Accounted root (do
        return !(← context.impliedByType property guard)) :=
      .bind (impliedByType_accounted context described guard) fun _ _ => .pure root _
    apply Accounted.bind (.filterM fun guard _ => implied guard)
    intro kept _
    split
    · exact .pure root _
    · exact .pure root _

/-- The written guards are among those of the property. -/
theorem Emit.Gives.compares {size : Nat} {property : Property}
    (described : property.Described root size) {guards : List Guard}
    (h : (context.writtenGuards property).Gives guards) :
    ∀ guard ∈ guards, guard.Compares root size property := by
  unfold Context.writtenGuards at h
  split at h
  · obtain rfl := Gives.of_pure h
    intro guard mem
    cases mem
  · obtain ⟨all, hall, h⟩ := Gives.of_bind h
    have compares := compares_of_mem_guards described (Gives.of_ofExcept hall)
    obtain ⟨kept, hkept, h⟩ := Gives.of_bind h
    have sub := Gives.mem_of_filterM hkept
    intro guard mem
    split at h
    · obtain rfl := Gives.of_pure h
      obtain ⟨original, horiginal, rfl⟩ := List.mem_map.1 mem
      exact compares original (sub original horiginal)
    · obtain rfl := Gives.of_pure h
      exact compares guard (sub guard mem)

/-- The lines of a guard can be written for every guard and every language. -/
theorem guardLines_accounted (root : Node) (language : TargetLanguage) (guard : Guard)
    (value itemType : String) {key? : Option String}
    (isKey : ∀ key ∈ key?, key ∈ (conditionTemplates language).map (·.1)) :
    Accounted root (guardLines language guard value itemType key?) := by
  obtain ⟨lines, written⟩ := exists_statementLines language guard value itemType isKey
  unfold guardLines
  apply Accounted.bind (.forIn fun name _ => .modify root _)
  intro _ _
  rw [written]
  exact .pure root lines

theorem needsFreezing_accounts {size : Nat} {type : TypeRef} (described : type.Described root size) :
    root.Accounts (needsFreezing type) := by
  cases described <;> exact .ok _

/-- How items are made comparable depends on their type, which must be known. -/
theorem freezingKey_accounted {size : Nat} {property : Property} {guard : Guard}
    (compares : guard.Compares root size property) :
    Accounted root (freezingKey guard property) := by
  unfold freezingKey
  split
  · exact .pure root _
  · rename_i unique
    obtain ⟨type, compared, described⟩ := compares (by simpa using unique)
    rw [compared]
    apply Accounted.bind (.pure root type)
    intro _ gives
    obtain rfl := Gives.of_pure gives
    apply Accounted.bind (.ofExcept (needsFreezing_accounts described))
    intro freezes _
    split
    · exact .pure root _
    · exact .bind (.modify root _) fun _ _ => .pure root _

/-- Python has a condition for items that cannot be hashed. -/
theorem isKey_of_freezingKey {property : Property} {guard : Guard} {key? : Option String}
    (h : (freezingKey guard property).Gives key?) :
    ∀ key ∈ key?, key ∈ (conditionTemplates .python).map (·.1) := by
  have none (h : (Pure.pure none : Emit (Option String)).Gives key?) :
      ∀ key ∈ key?, key ∈ (conditionTemplates .python).map (·.1) := by
    obtain rfl := Gives.of_pure h
    simp
  unfold freezingKey at h
  split at h
  · exact none h
  · obtain ⟨type, -, h⟩ := Gives.of_bind h
    obtain ⟨freezes, -, h⟩ := Gives.of_bind h
    split at h
    · exact none h
    · obtain ⟨_, -, h⟩ := Gives.of_bind h
      obtain rfl := Gives.of_pure h
      intro key mem
      obtain rfl := Option.mem_some_iff.1 mem
      decide

theorem fieldType_accounted (context : Context) {size : Nat} {property : Property}
    (described : property.Described root size) : Accounted root (context.fieldType property) :=
  typeName_accounted context described.type _

theorem propertyDefault_accounted (context : Context) {size : Nat} {property : Property}
    (described : property.Described root size) {value : Value}
    (given : property.default? = some value) :
    Accounted root (context.defaultValue value property.type) := by
  obtain ⟨fits, node, within, rfl⟩ := described.default value given
  exact defaultValue_accounted context within described.type fits

end

end SchemaClasses
