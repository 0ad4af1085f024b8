import SchemaClasses.Proofs.Emit.MemberNames
import SchemaClasses.Proofs.Emit.Methods

/-!
# Names that a method binds

A method is hygienic when no name that it binds is the identifier of a property in it. The loops
over items in a constructor bind a name, and so do the methods for comparison. The identifiers of
properties are written between them as they are, in Java and in Kotlin, and so a property may have
the name of a variable.

## Main definitions

* `Method.Hygienic`: no name that a method binds is an identifier of a property in it.
* `Method.Names`: which names there are in a method.
* `Context.constructorBinds`, `Context.comparisonBinds`: the names that the methods of a class bind.

## Main statements

* `Context.Declares.methods_hygienic_iff`: the methods of a class are hygienic when its properties
  are not called like the names that these bind.
-/

namespace SchemaClasses

open Emit

/-- No name that a method binds is an identifier of a property in it. -/
def Method.Hygienic (method : Method) : Prop :=
  ∀ bound field, method.Has (.bound bound) → method.Has (.field field) →
    bound ≠ Text.withoutLineFeed field

def Method.Names (language : TargetLanguage) (method : Method) (properties : List Property)
    (bound : List String) : Prop :=
  ∀ word : Word, word.isName → (method.Has word ↔
    (∃ property ∈ properties, word = .field (identifierOf language property.name)) ∨
      ∃ name ∈ bound, word = .bound name)

/-! ## Guards -/

def Context.checksItems (context : Context) (property : Property) : Bool :=
  context.settings.addValidation.isTruthy && property.type.itemConstraints.any fun constraint =>
    context.language ≠ .kotlin || constraint.kind ≠ .required

/-- A filter in the monad of writing keeps an element if its test gives true. -/
theorem Emit.Gives.mem_filterM_iff {α : Type} {p : α → Emit Bool} {as kept : List α} {a : α}
    {keeps : Bool} (each : ∀ b, (p a).Gives b → b = keeps) (h : (as.filterM p).Gives kept) :
    a ∈ kept ↔ a ∈ as ∧ keeps := by
  have aux {as kept kept' : List α} (h : (as.filterAuxM p kept).Gives kept') :
      a ∈ kept' ↔ (a ∈ as ∧ keeps) ∨ a ∈ kept := by
    induction as generalizing kept with
    | nil => simp [h.of_pure]
    | cons first rest ih =>
      obtain ⟨keepsFirst, given, h⟩ := h.of_bind
      rw [ih h]
      by_cases eq : a = first
      · subst eq
        obtain rfl := each _ given
        cases keepsFirst <;> simp
      · cases keepsFirst <;> simp [eq]
  obtain ⟨reversed, collected, result⟩ := h.of_bind
  rw [← result.of_pure, List.mem_reverse, aux collected]
  simp

section

variable {context : Context} {property : Property} {guards : List Guard}

/-- Every kind of the constraints has a guard. -/
theorem exists_guard_of_kind {field name : String} {constraints : List Constraint}
    {nullable element : Bool} {constraint : Constraint}
    (h : guardsOf field name constraints nullable element = .ok guards)
    (mem : constraint ∈ constraints) :
    ∃ guard ∈ guards, guard.kind = constraint.kind ∧ guard.element = element := by
  obtain ⟨last, found⟩ := exists_lastOfKind? mem
  obtain ⟨guard, hguard, given⟩ := Except.exists_of_mapM_eq_ok h
    (List.mem_filterMap.2 ⟨_, mem_precedence constraint.kind, found⟩)
  obtain ⟨isOf, isOn⟩ := of_guard given
  exact ⟨guard, hguard, isOf.kind.trans (lastOfKind?_eq_some found).2, isOn.element⟩

/-- The guards on items are those of the constraints on items. -/
theorem exists_element_guard_iff (h : property.guards = .ok guards) (P : ConstraintKind → Prop) :
    (∃ guard ∈ guards, guard.element ∧ P guard.kind) ↔
      ∃ constraint ∈ property.type.itemConstraints, P constraint.kind := by
  constructor
  · rintro ⟨guard, mem, element, holds⟩
    rcases of_mem_guards h guard mem with ⟨isOn, -⟩ | ⟨-, item, constraints, type, constraint, mem,
      isOf⟩
    · rw [isOn.element] at element
      cases element
    · exact ⟨constraint, by rwa [type], isOf.kind ▸ holds⟩
  · rintro ⟨constraint, mem, holds⟩
    unfold Property.guards at h
    obtain ⟨own, -, h⟩ := Except.bind_eq_ok_iff.1 h
    cases type : property.type with
    | sequence item constraints =>
      rw [type] at mem
      simp only [type] at h
      split at h
      · cases h
      · rename_i shape
        obtain ⟨rfl, rfl⟩ := TypeRef.sequence.inj shape
        obtain ⟨onItems, given, h⟩ := Except.bind_eq_ok_iff.1 h
        obtain rfl := Except.ok.inj h
        obtain ⟨guard, mem, kind, element⟩ := exists_guard_of_kind given mem
        exact ⟨guard, List.mem_append_right _ mem, element, kind ▸ holds⟩
      · rename_i noSequence
        exact absurd rfl (noSequence _ _)
    | _ =>
      rw [type] at mem
      cases mem

/-- The type of a property with constraints on its items makes none of the checks, but for the null
mark of Kotlin. -/
theorem impliedByType_of_element (h : property.guards = .ok guards) {guard : Guard}
    (mem : guard ∈ guards) (element : guard.element) {implied : Bool}
    (given : (context.impliedByType property guard).Gives implied) :
    implied = (context.language = .kotlin && guard.kind = .required) := by
  rcases of_mem_guards h guard mem with ⟨isOn, -⟩ | ⟨-, item, constraints, type, -⟩
  · rw [isOn.element] at element
    cases element
  · unfold Context.impliedByType at given
    split at given
    · rename_i kotlin required
      simp [← given.of_pure, kotlin, required]
    · rename_i java required
      obtain ⟨text, given, result⟩ := given.of_bind
      rw [Context.fieldType, type] at given
      simp [← result.of_pure, boxed?_of_gives_sequence java given, java]
    · rename_i notKotlin notJava
      rw [← given.of_pure]
      grind

/-- The guards that are written out are on items if there is a constraint on items that the type
does not imply. -/
theorem exists_element_iff (h : (context.writtenGuards property).Gives guards) :
    (∃ guard ∈ guards, guard.element) ↔ context.checksItems property := by
  unfold Context.writtenGuards at h
  unfold Context.checksItems
  split at h
  · rename_i off
    simp_all [← h.of_pure]
  · rename_i on
    obtain ⟨all, given, h⟩ := h.of_bind
    obtain ⟨kept, filtered, h⟩ := h.of_bind
    have given := given.of_ofExcept
    have same : (∃ guard ∈ guards, guard.element) ↔ ∃ guard ∈ kept, guard.element := by
      split at h
      · simp [← h.of_pure]
      · rw [h.of_pure]
    have isKept (guard : Guard) : guard ∈ kept ∧ guard.element ↔ guard ∈ all ∧ guard.element ∧
        (context.language ≠ .kotlin ∨ guard.kind ≠ .required) := by
      have each (mem : guard ∈ all) (element : guard.element) : guard ∈ kept ↔
          guard ∈ all ∧ !(context.language = .kotlin && guard.kind = .required) := by
        refine filtered.mem_filterM_iff fun keeps h => ?_
        obtain ⟨implied, isImplied, h⟩ := h.of_bind
        rw [← h.of_pure, impliedByType_of_element given mem element isImplied]
      have known := filtered.mem_of_filterM guard
      grind
    rw [same, exists_congr isKept, exists_element_guard_iff given
      fun kind => context.language ≠ .kotlin ∨ kind ≠ .required]
    simp_all

end

/-- The comparison binds the other object, and in Java, if there are fields to compare, that object
as one of the class. -/
def equalsBinds (language : TargetLanguage) (own : List Property) : List String :=
  if language = .java ∧ own ≠ [] then ["other", "typedOther"] else ["other"]

def hashBinds (language : TargetLanguage) (extendsBase : Bool) (own : List Property) :
    List String :=
  if own.length + extendsBase.toNat < (if language = .kotlin then 3 else 2) then [] else ["hash"]

/-! ## Words -/

theorem or_exists_iff_of_forall₂ {α β : Type} {P : β → Prop} {Q R : α → Prop} {as : List α}
    {bs : List β} (h : List.Forall₂ (fun a b => R a ∨ P b ↔ Q a) as bs) :
    ((∃ a ∈ as, R a) ∨ ∃ b ∈ bs, P b) ↔ ∃ a ∈ as, Q a := by
  induction h with
  | nil => simp
  | cons first _ ih =>
    simp only [List.exists_mem_cons_iff, ← ih, ← first]
    exact or_or_or_comm

theorem exists_iff_of_forall₂ {α β : Type} {P : β → Prop} {Q : α → Prop} {as : List α}
    {bs : List β} (h : List.Forall₂ (fun a b => P b ↔ Q a) as bs) :
    (∃ b ∈ bs, P b) ↔ ∃ a ∈ as, Q a := by
  simpa using or_exists_iff_of_forall₂ (R := fun _ => False)
    (h.imp fun _ _ iff => by simpa using iff)

section

variable {language : TargetLanguage} {context : Context} {property : Property}
  {properties own inherited : List Property} {method : Method} {phrase : Phrase} {word : Word}
  {name itemType : String}

/-- When it is known what names a method has, it is hygienic if no bound name is that of a
property. -/
theorem Method.Names.hygienic_iff {bound : List String}
    (h : method.Names language properties bound) : method.Hygienic ↔
      ∀ name ∈ bound, ∀ property ∈ properties,
        name ≠ Text.withoutLineFeed (identifierOf language property.name) := by
  constructor
  · intro hygienic name isBound property mem
    exact hygienic _ _ ((h _ rfl).2 (.inr ⟨name, isBound, rfl⟩))
      ((h _ rfl).2 (.inl ⟨property, mem, rfl⟩))
  · intro apart bound field hasBound hasField
    obtain ⟨_, -, eq⟩ | ⟨name, isBound, eq⟩ := (h _ rfl).1 hasBound
    · cases eq
    · cases eq
      obtain ⟨property, mem, eq⟩ | ⟨_, -, eq⟩ := (h _ rfl).1 hasField
      · cases eq
        exact apart _ isBound _ mem
      · cases eq

/-- The names in a hash code are those of the fields, and that of the variable. -/
theorem names_of_terms {terms : List Phrase} {extendsBase : Bool}
    (areTerms : ∀ word : Word, word.isName → List.Forall₂ (fun property term =>
      word ∈ term ↔ word = .field (identifierOf language property.name)) own terms)
    (lines : ∀ word : Word, word.isName → (method.Has word ↔
      (∃ term ∈ superclassTerms extendsBase ++ terms, word ∈ term) ∨
        ((if language = .kotlin then 3 else 2) ≤ (superclassTerms extendsBase ++ terms).length ∧
          word = .bound "hash"))) :
    method.Names language own (hashBinds language extendsBase own) := by
  intro word isName
  have superclass : ¬∃ term ∈ superclassTerms extendsBase, word ∈ term := by
    cases extendsBase <;> simp [superclassTerms, Word.ne_text isName]
  have count : (superclassTerms extendsBase ++ terms).length = own.length + extendsBase.toNat := by
    rw [List.length_append, ← (areTerms word isName).length_eq, Nat.add_comm]
    cases extendsBase <;> rfl
  rw [lines word isName, count, ← exists_iff_of_forall₂ (areTerms word isName)]
  simp only [List.mem_append, or_and_right, exists_or, superclass, false_or]
  unfold hashBinds
  grind

theorem eq_of_gives_markedField (h : (markedField language property).Gives phrase) :
    phrase = [.field (identifierOf language property.name)] := by
  obtain ⟨name, named, h⟩ := h.of_bind
  obtain ⟨-, rfl⟩ := fieldName_eq_ok_iff.1 named.of_ofExcept
  exact h.of_pure.symm

theorem eq_of_gives_markedGuard {guard : Guard}
    (h : (markedGuard language guard phrase itemType).Gives method) :
    method = statementWords language guard phrase itemType := by
  obtain ⟨_, -, h⟩ := h.of_bind
  exact h.of_pure.symm

/-- The names in the guards of a property, beside the property: the variable of the loops. -/
theorem or_has_checks_iff {guards : List Guard} (isName : word.isName)
    (h : (context.writtenGuards property).Gives guards) :
    (word = .field name ∨ Method.Has (guards.map fun guard =>
      statementWords language guard [.field name] itemType).flatten word) ↔
        word = .field name ∨ (context.checksItems property ∧ word = .bound "item") := by
  rw [Method.has_flatten_iff, ← exists_element_iff h]
  constructor
  · rintro (isField | ⟨_, mem, has⟩)
    · exact .inl isField
    · obtain ⟨guard, isGuard, rfl⟩ := List.mem_map.1 mem
      rcases mem_or_of_has_statementWords isName has with isField | ⟨element, isItem⟩
      · exact .inl (List.mem_singleton.1 isField)
      · exact .inr ⟨⟨guard, isGuard, element⟩, isItem⟩
  · rintro (isField | ⟨⟨guard, mem, element⟩, rfl⟩)
    · exact .inl isField
    · exact .inr ⟨_, List.mem_map_of_mem mem, has_item_statementWords element⟩

/-- The names in the arguments of a call. -/
theorem mem_arguments_iff {arguments : List Phrase} (isName : word.isName)
    (h : (inherited.mapM (markedField language)).Gives arguments) :
    word ∈ List.intercalate [.text ", "] arguments ↔
      ∃ property ∈ inherited, word = .field (identifierOf language property.name) := by
  rw [Phrase.mem_intercalate_iff isName]
  refine exists_iff_of_forall₂ (h.of_mapM.imp fun property phrase given => ?_)
  rw [eq_of_gives_markedField given, List.mem_singleton]

end

/-! ## Java -/

namespace Java

section

variable {context : Context} {property : Property} {own inherited : List Property}
  {method : Method} {methods : List Method} {phrase : Phrase} {word : Word} {name : String}
  {extendsBase : Bool}

theorem eq_of_gives_field (h : (field property).Gives name) :
    identifierOf .java property.name = name :=
  (fieldName_eq_ok_iff.1 h.of_ofExcept).2

theorem mem_markedParameter_iff (isName : word.isName)
    (h : (markedParameter context property).Gives phrase) :
    word ∈ phrase ↔ word = .field (identifierOf .java property.name) := by
  obtain ⟨type, -, h⟩ := h.of_bind
  obtain ⟨name, named, h⟩ := h.of_bind
  obtain rfl := eq_of_gives_field named
  simp [← h.of_pure, Word.ne_text isName]

theorem mem_markedValue_iff (isName : word.isName)
    (h : (markedValue context property name).Gives phrase) :
    word ∈ phrase ↔ word = .field name := by
  unfold markedValue at h
  split at h
  · obtain ⟨default, -, h⟩ := h.of_bind
    simp [← h.of_pure, Word.ne_text isName]
  · simp [← h.of_pure]

/-- The lines that set a field have the name of the field, and the loop variable if items are
checked. -/
theorem has_markedAssignment_iff (isName : word.isName)
    (h : (markedAssignment context property).Gives method) : method.Has word ↔
      word = .field (identifierOf .java property.name) ∨
        (context.checksItems property ∧ word = .bound "item") := by
  obtain ⟨name, named, h⟩ := h.of_bind
  obtain rfl := eq_of_gives_field named
  obtain ⟨itemType, -, h⟩ := h.of_bind
  obtain ⟨guards, given, h⟩ := h.of_bind
  obtain ⟨checks, written, h⟩ := h.of_bind
  obtain ⟨value, isValue, h⟩ := h.of_bind
  rw [← or_has_checks_iff isName given,
    ← written.eq_map_of_mapM fun _ _ h => eq_of_gives_markedGuard h, ← h.of_pure]
  simp [Word.ne_text isName, mem_markedValue_iff isName isValue, or_comm]

theorem exists_of_has_markedSuperCall (isName : word.isName)
    (h : (markedSuperCall extendsBase inherited).Gives method) (has : method.Has word) :
    ∃ property ∈ inherited, word = .field (identifierOf .java property.name) := by
  unfold markedSuperCall at h
  split at h
  · obtain ⟨arguments, given, h⟩ := h.of_bind
    rw [← h.of_pure] at has
    simpa [Word.ne_text isName, mem_arguments_iff isName given] using has
  · rw [← h.of_pure] at has
    cases Method.not_has_nil has

/-- The constructor names all properties, and checks those of the class itself. -/
theorem has_markedConstructor_iff (isName : word.isName)
    (h : (markedConstructor context name extendsBase inherited own).Gives method) :
    method.Has word ↔
      (∃ property ∈ inherited ++ own, word = .field (identifierOf .java property.name)) ∨
        ((∃ property ∈ own, context.checksItems property) ∧ word = .bound "item") := by
  obtain ⟨parameters, areParameters, h⟩ := h.of_bind
  obtain ⟨superCall, isSuperCall, h⟩ := h.of_bind
  obtain ⟨assignments, areAssignments, h⟩ := h.of_bind
  have ofParameters : Method.Has parameters word ↔
      ∃ property ∈ inherited ++ own, word = .field (identifierOf .java property.name) :=
    exists_iff_of_forall₂ (areParameters.of_mapM.imp fun _ _ => mem_markedParameter_iff isName)
  have ofAssignments : (∃ assignment ∈ assignments, assignment.Has word) ↔ ∃ property ∈ own,
      word = .field (identifierOf .java property.name) ∨
        (context.checksItems property ∧ word = .bound "item") :=
    exists_iff_of_forall₂ (areAssignments.of_mapM.imp fun _ _ => has_markedAssignment_iff isName)
  have ofSuperCall := exists_of_has_markedSuperCall isName isSuperCall
  have lines : method.Has word ↔ Method.Has parameters word ∨ superCall.Has word ∨
      ∃ assignment ∈ assignments, assignment.Has word := by
    rw [← h.of_pure]
    simp [Method.has_map_indented_iff isName, Method.has_marked_iff isName,
      Method.has_indent_iff isName, Method.has_flatten_iff, Word.ne_text isName]
  rw [lines, ofParameters, ofAssignments]
  constructor
  · rintro (parameter | superCall | ⟨property, mem, isField | ⟨checks, isItem⟩⟩)
    · exact .inl parameter
    · obtain ⟨property, mem, eq⟩ := ofSuperCall superCall
      exact .inl ⟨property, List.mem_append_left _ mem, eq⟩
    · exact .inl ⟨property, List.mem_append_right _ mem, isField⟩
    · exact .inr ⟨⟨property, mem, checks⟩, isItem⟩
  · rintro (parameter | ⟨⟨property, mem, checks⟩, isItem⟩)
    · exact .inl parameter
    · exact .inr (.inr ⟨property, mem, .inr ⟨checks, isItem⟩⟩)

/-- The constructor has the names of all properties, and the loop variable if items of a property of
the class are checked. -/
theorem has_markedConstructors_iff (isName : word.isName)
    (h : (markedConstructors context name extendsBase inherited own).Gives methods) :
    Method.Has methods.flatten word ↔
      (∃ property ∈ inherited ++ own, word = .field (identifierOf .java property.name)) ∨
        ((∃ property ∈ own, context.checksItems property) ∧ word = .bound "item") := by
  unfold markedConstructors at h
  split at h
  · rename_i empty
    obtain ⟨noInherited, noOwn⟩ := Bool.and_eq_true_iff.1 empty
    simp [← h.of_pure, List.isEmpty_iff.1 noInherited, List.isEmpty_iff.1 noOwn]
  · obtain ⟨method, given, h⟩ := h.of_bind
    rw [← has_markedConstructor_iff isName given, ← h.of_pure]
    simp

theorem hygienic_of_markedGetter (h : (markedGetter context property).Gives method) :
    method.Hygienic := by
  obtain ⟨name, -, h⟩ := h.of_bind
  obtain ⟨type, -, h⟩ := h.of_bind
  intro bound field has
  rw [← h.of_pure] at has
  simp [Method.Has, Phrase.indented] at has

/-! ### Comparison -/

theorem mem_otherField_iff (isName : word.isName) (name : String) :
    word ∈ otherField name ↔ word = .bound "typedOther" := by
  simp [otherField, Word.ne_text isName]

/-- The test that two fields are equal names the field and the other object. -/
theorem mem_markedEqualTest_iff (isName : word.isName)
    (h : (markedEqualTest context property).Gives phrase) : word ∈ phrase ↔
      word = .field (identifierOf .java property.name) ∨ word = .bound "typedOther" := by
  obtain ⟨name, named, h⟩ := h.of_bind
  obtain rfl := eq_of_gives_field named
  obtain ⟨type, -, h⟩ := h.of_bind
  split at h
  · simp [← h.of_pure, mem_otherField_iff isName, Word.ne_text isName]
  · split at h
    · simp [← h.of_pure, mem_otherField_iff isName, Word.ne_text isName]
      tauto
    · simp [← h.of_pure, mem_otherField_iff isName, Word.ne_text isName]

/-- The test that two fields differ names the field and the other object. -/
theorem mem_markedUnequalTest_iff (isName : word.isName)
    (h : (markedUnequalTest context property).Gives phrase) : word ∈ phrase ↔
      word = .field (identifierOf .java property.name) ∨ word = .bound "typedOther" := by
  obtain ⟨name, named, h⟩ := h.of_bind
  obtain rfl := eq_of_gives_field named
  obtain ⟨type, -, h⟩ := h.of_bind
  split at h
  · simp [← h.of_pure, mem_otherField_iff isName, Word.ne_text isName]
  · split at h
    · obtain ⟨test, isTest, h⟩ := h.of_bind
      simp [← h.of_pure, mem_markedEqualTest_iff isName isTest, Word.ne_text isName]
    · simp [← h.of_pure, mem_otherField_iff isName, Word.ne_text isName]

/-- The comparison names every field and, if there is one, the other object. -/
theorem has_markedComparison_iff (isName : word.isName)
    (h : (markedComparison context own).Gives method) : method.Has word ↔ ∃ property ∈ own,
      word = .field (identifierOf .java property.name) ∨ word = .bound "typedOther" := by
  fun_induction markedComparison context own generalizing method with
  | case1 => simp [← h.of_pure]
  | case2 property =>
    obtain ⟨test, isTest, h⟩ := h.of_bind
    simp [← h.of_pure, Phrase.mem_indented_iff isName, mem_markedEqualTest_iff isName isTest,
      Word.ne_text isName]
  | case3 property rest nonempty ih =>
    obtain ⟨test, isTest, h⟩ := h.of_bind
    obtain ⟨others, given, h⟩ := h.of_bind
    simp [← h.of_pure, Phrase.mem_indented_iff isName, mem_markedUnequalTest_iff isName isTest,
      Word.ne_text isName, ih given]

/-- In Java the comparison binds two names, the second one only if there are fields to compare. -/
theorem names_markedEquals (h : (markedEquals context name extendsBase own).Gives method) :
    method.Names .java own (equalsBinds .java own) := by
  intro word isName
  obtain ⟨comparisons, given, h⟩ := h.of_bind
  have superclass : (markedSuperclass extendsBase (!own.isEmpty)).Has word →
      word = .bound "other" := by
    cases extendsBase <;> cases own <;>
      simp [markedSuperclass, Phrase.mem_indented_iff isName, Word.ne_text isName]
  have lines : method.Has word ↔ word = .bound "other" ∨
      (markedSuperclass extendsBase (!own.isEmpty)).Has word ∨
      (own ≠ [] ∧ word = .bound "typedOther") ∨ comparisons.Has word := by
    rw [← h.of_pure]
    cases own <;> simp [Phrase.mem_indented_iff isName, Word.ne_text isName]
    grind
  rw [lines, has_markedComparison_iff isName given]
  unfold equalsBinds
  cases own with
  | nil => simpa using superclass
  | cons first rest => grind

theorem mem_markedPrimitiveHash?_iff (isName : word.isName) {type : String}
    (h : markedPrimitiveHash? type name = some phrase) : word ∈ phrase ↔ word = .field name := by
  unfold markedPrimitiveHash? at h
  split at h
  all_goals cases h
  all_goals simp [Word.ne_text isName]

/-- The hash code of a field names nothing but the field. -/
theorem mem_markedHashTerm_iff (isName : word.isName)
    (h : (markedHashTerm context property).Gives phrase) :
    word ∈ phrase ↔ word = .field (identifierOf .java property.name) := by
  obtain ⟨name, named, h⟩ := h.of_bind
  obtain rfl := eq_of_gives_field named
  obtain ⟨type, -, h⟩ := h.of_bind
  split at h
  · rename_i found
    rw [← h.of_pure]
    exact mem_markedPrimitiveHash?_iff isName found
  · rw [← h.of_pure]
    split <;> simp [Word.ne_text isName]

/-- The hash code binds a variable if there are two terms for it at least. -/
theorem has_markedHashLines_iff (isName : word.isName) (terms : List Phrase) :
    (markedHashLines terms).Has word ↔
      (∃ term ∈ terms, word ∈ term) ∨ (2 ≤ terms.length ∧ word = .bound "hash") := by
  rcases terms with _ | ⟨first, _ | ⟨second, rest⟩⟩
  · simp [markedHashLines, Phrase.mem_indented_iff isName, Word.ne_text isName]
  · simp [markedHashLines, Phrase.mem_indented_iff isName, Word.ne_text isName]
  · have lines : (markedHashLines (first :: second :: rest)).Has word ↔
        (word = .bound "hash" ∨ word ∈ first) ∨
          (∃ term ∈ second :: rest, word = .bound "hash" ∨ word ∈ term) ∨ word = .bound "hash" := by
      simp [markedHashLines, Method.has_map_iff, Word.ne_text isName,
        Phrase.mem_indented_iff isName, or_assoc]
    grind

/-- The hash code in Java binds a variable if there is more than one term. -/
theorem names_markedHash (h : (markedHash context extendsBase own).Gives method) :
    method.Names .java own (hashBinds .java extendsBase own) := by
  obtain ⟨terms, given, h⟩ := h.of_bind
  refine names_of_terms
    (fun word isName => given.of_mapM.imp fun _ _ => mem_markedHashTerm_iff isName)
    fun word isName => ?_
  rw [← h.of_pure]
  simp [has_markedHashLines_iff isName, Word.ne_text isName]

end

end Java

/-! ## Kotlin -/

namespace Kotlin

section

variable {context : Context} {property : Property} {own inherited : List Property}
  {method : Method} {methods : List Method} {phrase : Phrase} {word : Word} {name : String}
  {extendsBase declares : Bool}

theorem eq_of_gives_field (h : (field property).Gives name) :
    identifierOf .kotlin property.name = name :=
  (fieldName_eq_ok_iff.1 h.of_ofExcept).2

/-- A parameter in Kotlin names nothing but its property. -/
theorem mem_markedParameter_iff (isName : word.isName)
    (h : (markedParameter context declares property).Gives phrase) :
    word ∈ phrase ↔ word = .field (identifierOf .kotlin property.name) := by
  obtain ⟨name, named, h⟩ := h.of_bind
  obtain rfl := eq_of_gives_field named
  obtain ⟨type, -, h⟩ := h.of_bind
  extract_lets shown at h
  split at h
  · obtain ⟨default, -, h⟩ := h.of_bind
    simp [← h.of_pure, shown, Word.ne_text isName]
  · rw [← h.of_pure]
    split <;> simp [shown, Word.ne_text isName]

/-- The call of the superclass constructor names inherited properties only. -/
theorem exists_of_mem_markedSuperclassCall {id : ClassId} {base? : Option ClassId}
    (isName : word.isName)
    (h : (markedSuperclassCall context id inherited base?).Gives phrase) (mem : word ∈ phrase) :
    ∃ property ∈ inherited, word = .field (identifierOf .kotlin property.name) := by
  cases base? with
  | none =>
    rw [← h.of_pure] at mem
    cases mem
  | some base =>
    obtain ⟨arguments, given, h⟩ := h.of_bind
    obtain ⟨name, -, h⟩ := h.of_bind
    rw [← h.of_pure] at mem
    simpa [Word.ne_text isName, mem_arguments_iff isName given] using mem

theorem has_markedHead_iff (isName : word.isName) (start : String) (supertype : Phrase)
    (parameters : Method) : (markedHead start supertype parameters).Has word ↔
      word ∈ supertype ∨ parameters.Has word := by
  unfold markedHead
  split
  · rename_i empty
    simp [List.isEmpty_iff.1 empty, Word.ne_text isName]
  · simp [Method.has_map_indented_iff isName, Method.has_marked_iff isName, Word.ne_text isName,
      or_comm]

/-- The guards of a property add the loop variable to its name, if items are checked. -/
theorem or_has_markedGuards_iff (isName : word.isName)
    (h : (markedGuards context property).Gives method) :
    (word = .field (identifierOf .kotlin property.name) ∨ method.Has word) ↔
      word = .field (identifierOf .kotlin property.name) ∨
        (context.checksItems property ∧ word = .bound "item") := by
  obtain ⟨guards, given, h⟩ := h.of_bind
  obtain ⟨checks, written, h⟩ := h.of_bind
  rw [← or_has_checks_iff isName given, ← h.of_pure,
    ← written.eq_map_of_mapM fun guard method h => ?_]
  obtain ⟨name, named, h⟩ := h.of_bind
  obtain rfl := eq_of_gives_field named
  exact eq_of_gives_markedGuard h

/-- The names in the initializer, beside the properties of the class. -/
theorem or_has_markedInit_iff (isName : word.isName) (h : (markedInit context own).Gives methods) :
    ((∃ property ∈ own, word = .field (identifierOf .kotlin property.name)) ∨
      Method.Has methods.flatten word) ↔ ∃ property ∈ own,
        word = .field (identifierOf .kotlin property.name) ∨
          (context.checksItems property ∧ word = .bound "item") := by
  obtain ⟨guards, given, h⟩ := h.of_bind
  rw [← or_exists_iff_of_forall₂
    (given.of_mapM.imp fun _ _ => or_has_markedGuards_iff isName), ← Method.has_flatten_iff]
  refine or_congr_right ?_
  extract_lets lines at h
  unfold lines at h
  split at h
  · rename_i empty
    simp [← h.of_pure, List.isEmpty_iff.1 empty]
  · simp [← h.of_pure, Method.has_indent_iff isName, Word.ne_text isName]

/-- In Kotlin the comparison binds the other object. -/
theorem names_markedEquals (h : (markedEquals name extendsBase own).Gives method) :
    method.Names .kotlin own (equalsBinds .kotlin own) := by
  intro word isName
  obtain ⟨comparisons, given, h⟩ := h.of_bind
  have compared : Method.Has comparisons word ↔ ∃ property ∈ own,
      word = .field (identifierOf .kotlin property.name) ∨ word = .bound "other" := by
    refine exists_iff_of_forall₂ (given.of_mapM.imp fun property line h => ?_)
    obtain ⟨name, named, h⟩ := h.of_bind
    obtain rfl := eq_of_gives_field named
    simp [← h.of_pure, Phrase.mem_indented_iff isName, Word.ne_text isName]
  have lines : method.Has word ↔ word = .bound "other" ∨ Method.Has comparisons word := by
    rw [← h.of_pure, Method.has_marked_iff isName]
    cases extendsBase <;> simp [Word.ne_text isName]
  rw [lines, compared]
  unfold equalsBinds
  grind

/-- The hash code binds a variable if there are three terms for it at least. -/
theorem has_markedHashLines_iff (isName : word.isName) (terms : List Phrase) :
    (markedHashLines terms).Has word ↔
      (∃ term ∈ terms, word ∈ term) ∨ (3 ≤ terms.length ∧ word = .bound "hash") := by
  rcases terms with _ | ⟨first, _ | ⟨second, _ | ⟨third, rest⟩⟩⟩
  · simp [markedHashLines, Word.ne_text isName]
  · simp [markedHashLines, Word.ne_text isName]
  · simp [markedHashLines, Word.ne_text isName]
  · have lines : (markedHashLines (first :: second :: third :: rest)).Has word ↔
        (word = .bound "hash" ∨ word ∈ first) ∨
          (∃ term ∈ second :: third :: rest, word = .bound "hash" ∨ word ∈ term) ∨
            word = .bound "hash" := by
      simp [markedHashLines, Method.has_map_iff, Word.ne_text isName,
        Phrase.mem_indented_iff isName, or_assoc]
    grind

/-- The hash code in Kotlin binds a variable if there are more than two terms. -/
theorem names_markedHash (h : (markedHash extendsBase own).Gives method) :
    method.Names .kotlin own (hashBinds .kotlin extendsBase own) := by
  obtain ⟨terms, given, h⟩ := h.of_bind
  refine names_of_terms (fun word isName => given.of_mapM.imp fun property term h => ?_)
    fun word isName => ?_
  · obtain ⟨name, named, h⟩ := h.of_bind
    obtain rfl := eq_of_gives_field named
    simp [← h.of_pure, Word.ne_text isName]
  · rw [← h.of_pure]
    simp [has_markedHashLines_iff isName]

end

end Kotlin

/-! ## Classes -/

def MarkedDeclaration.bodies (marked : MarkedDeclaration) : List Method :=
  (marked.head ++ marked.constructor.flatten) :: marked.methods

/-- A declaration in which the names are told apart, with everything nested in it. -/
def Context.Marks (context : Context) (id : ClassId) (marked : MarkedDeclaration) : Prop :=
  let nested := (context.inFile id).nestedSections
    ((context.graph.get id).nested.map context.graph.tree)
  match context.language with
  | .kotlin => (Kotlin.markedDeclaration (context.place id) id nested).Gives marked
  | .java => (Java.markedDeclaration (context.place id) id nested).Gives marked
  | .python => False

def Context.constructorBinds (context : Context) (id : ClassId) : List String :=
  if (context.splitFields id).2.any context.checksItems then ["item"] else []

def Context.comparisonBinds (context : Context) (id : ClassId) : List String :=
  let own := (context.splitFields id).2
  if writesEquality context.language (context.graph.get id).kind then
    equalsBinds context.language own ++
      hashBinds context.language (context.superclass? id).isSome own
  else []

/-- What names there are in the constructor of a class, and when its other methods are hygienic. -/
structure MarkedDeclaration.NamesOf (marked : MarkedDeclaration) (context : Context)
    (id : ClassId) : Prop where
  constructor : (marked.head ++ marked.constructor.flatten).Names context.language
    ((context.splitFields id).1 ++ (context.splitFields id).2) (context.constructorBinds id)
  methods : (∀ method ∈ marked.methods, method.Hygienic) ↔
    ∀ name ∈ context.comparisonBinds id, ∀ property ∈ (context.splitFields id).2,
      name ≠ Text.withoutLineFeed (identifierOf context.language property.name)

/-- No property is called like a name that is bound where it is used. -/
structure Context.NamesApart (context : Context) (id : ClassId) : Prop where
  constructor : ∀ name ∈ context.constructorBinds id,
    ∀ property ∈ (context.splitFields id).1 ++ (context.splitFields id).2,
      name ≠ Text.withoutLineFeed property.name
  comparison : ∀ name ∈ context.comparisonBinds id, ∀ property ∈ (context.splitFields id).2,
    name ≠ Text.withoutLineFeed property.name

section

variable {context : Context} {id : ClassId} {declaration : Declaration}
  {nested : Emit (List Section)} {marked : MarkedDeclaration} {equality : List Method}

theorem exists_constructorBinds_iff {word : Word} :
    (∃ name ∈ context.constructorBinds id, word = .bound name) ↔
      (∃ property ∈ (context.splitFields id).2, context.checksItems property) ∧
        word = .bound "item" := by
  unfold Context.constructorBinds
  rw [← List.any_eq_true]
  split <;> simp_all

/-- The two methods for comparison are hygienic when no property has one of the names that they
bind. -/
theorem hygienic_markedEquality_iff {language : TargetLanguage} {own : List Property}
    {writes : Bool} {equals hash : Emit Method} {equalsBound hashBound : List String}
    (h : (markedEquality writes equals hash).Gives equality)
    (isEquals : ∀ {method}, equals.Gives method → method.Names language own equalsBound)
    (isHash : ∀ {method}, hash.Gives method → method.Names language own hashBound) :
    (∀ method ∈ equality, method.Hygienic) ↔
      ∀ name ∈ (if writes then equalsBound ++ hashBound else []), ∀ property ∈ own,
        name ≠ Text.withoutLineFeed (identifierOf language property.name) := by
  unfold markedEquality at h
  split at h
  · rename_i writes
    obtain ⟨equals, givesEquals, h⟩ := h.of_bind
    obtain ⟨hash, givesHash, h⟩ := h.of_bind
    rw [← h.of_pure, List.forall_mem_cons, List.forall_mem_singleton,
      (isEquals givesEquals).hygienic_iff, (isHash givesHash).hygienic_iff,
      ← List.forall_mem_append, if_pos writes]
  · rename_i writes
    rw [← h.of_pure]
    simp [writes]

/-- The names in the methods of a Java class. -/
theorem Java.namesOf (java : context.language = .java)
    (h : (Java.markedDeclaration context id nested).Gives marked) : marked.NamesOf context id := by
  obtain ⟨extension, -, h⟩ := h.of_bind
  obtain ⟨fields, -, h⟩ := h.of_bind
  obtain ⟨constructor, areConstructors, h⟩ := h.of_bind
  obtain ⟨getters, areGetters, h⟩ := h.of_bind
  obtain ⟨equality, isEquality, h⟩ := h.of_bind
  obtain ⟨enums, -, h⟩ := h.of_bind
  obtain ⟨inner, -, h⟩ := h.of_bind
  rw [← h.of_pure]
  constructor
  · intro word isName
    rw [exists_constructorBinds_iff, java, ← has_markedConstructors_iff isName areConstructors]
    simp [Word.ne_text isName]
  · have getters : ∀ method ∈ getters, Method.Hygienic method :=
      areGetters.forall_of_mapM fun _ _ => Java.hygienic_of_markedGetter
    rw [List.forall_mem_append, and_iff_right getters]
    unfold Context.comparisonBinds
    rw [java]
    exact hygienic_markedEquality_iff isEquality Java.names_markedEquals Java.names_markedHash

/-- The names in the methods of a Kotlin class. -/
theorem Kotlin.namesOf (kotlin : context.language = .kotlin)
    (h : (Kotlin.markedDeclaration context id nested).Gives marked) :
    marked.NamesOf context id := by
  obtain ⟨passed, arePassed, h⟩ := h.of_bind
  obtain ⟨declared, areDeclared, h⟩ := h.of_bind
  obtain ⟨supertype, isSupertype, h⟩ := h.of_bind
  obtain ⟨enums, -, h⟩ := h.of_bind
  obtain ⟨init, areInit, h⟩ := h.of_bind
  obtain ⟨equality, isEquality, h⟩ := h.of_bind
  obtain ⟨inner, -, h⟩ := h.of_bind
  rw [← h.of_pure]
  constructor
  · intro word isName
    -- The parameters are all properties; the superclass call and the guards name no others.
    have ofPassed : Method.Has passed word ↔ ∃ property ∈ (context.splitFields id).1,
        word = .field (identifierOf .kotlin property.name) :=
      exists_iff_of_forall₂ (arePassed.of_mapM.imp fun _ _ => mem_markedParameter_iff isName)
    have ofDeclared : Method.Has declared word ↔ ∃ property ∈ (context.splitFields id).2,
        word = .field (identifierOf .kotlin property.name) :=
      exists_iff_of_forall₂ (areDeclared.of_mapM.imp fun _ _ => mem_markedParameter_iff isName)
    have ofInit := or_has_markedInit_iff isName areInit
    have ofSupertype := exists_of_mem_markedSuperclassCall isName isSupertype
    rw [exists_constructorBinds_iff, kotlin]
    simp only [Method.has_append_iff, has_markedHead_iff isName, ofPassed, ofDeclared]
    grind
  · unfold Context.comparisonBinds
    rw [kotlin]
    exact hygienic_markedEquality_iff isEquality Kotlin.names_markedEquals Kotlin.names_markedHash

/-- Every declaration in Kotlin or in Java is one whose names can be told apart. -/
theorem Context.Declares.exists_marks (backend : context.language ≠ .python)
    (declares : context.Declares id declaration) : ∃ marked, context.Marks id marked ∧
      marked.written = declaration ∧ marked.NamesOf context id := by
  unfold Context.Declares Context.declaration at declares
  rw [show (context.place id).language = context.language from rfl] at declares
  unfold Context.Marks
  cases language : context.language with
  | kotlin =>
    rw [language] at declares
    simp only [Kotlin.declaration_eq] at declares
    obtain ⟨marked, given, written⟩ := declares.of_map
    have names := Kotlin.namesOf (show (context.place id).language = _ from language) given
    exact ⟨marked, given, written, names.constructor, names.methods⟩
  | java =>
    rw [language] at declares
    simp only [Java.declaration_eq] at declares
    obtain ⟨marked, given, written⟩ := declares.of_map
    have names := Java.namesOf (show (context.place id).language = _ from language) given
    exact ⟨marked, given, written, names.constructor, names.methods⟩
  | python => exact absurd language backend

/-! ### The names of properties -/

/-- The names that methods bind are not reserved, and end with letters. -/
theorem plain_of_mem_binds {name : String}
    (bound : name ∈ context.constructorBinds id ∨ name ∈ context.comparisonBinds id) :
    name ∉ context.language.keywords ∧ ∃ c, name.toList.getLast? = some c ∧ c.isAlpha := by
  have known : name ∈ ["item", "other", "typedOther", "hash"] := by
    unfold Context.constructorBinds Context.comparisonBinds equalsBinds hashBinds at bound
    grind
  have plain : ∀ name ∈ ["item", "other", "typedOther", "hash"],
      name ∉ context.language.keywords ∧ name.toList.getLast?.any Char.isAlpha := by
    cases context.language <;> decide +kernel
  exact (plain name known).imp_right (Option.any_eq_true _ _).1

/-- The identifier of a property is a name without a reserved word exactly if the property is called
like it. -/
theorem eq_withoutLineFeed_identifierOf_iff {language : TargetLanguage} {name bound : String}
    (free : bound ∉ language.keywords) (letter : ∃ c, bound.toList.getLast? = some c ∧ c.isAlpha) :
    bound = Text.withoutLineFeed (identifierOf language name) ↔
      bound = Text.withoutLineFeed name := by
  by_cases reserved : name ∈ language.keywords
  · rw [identifierOf_of_mem reserved, withoutLineFeed_escapeKeyword,
      withoutLineFeed_of_mem_keywords reserved]
    refine iff_of_false ?_ fun eq => free (eq ▸ reserved)
    rintro rfl
    obtain ⟨c, last, letter⟩ := letter
    obtain ⟨d, last', other, -⟩ := exists_getLast?_escapeKeyword language name
    rw [Option.some.inj (last.symm.trans last'), other] at letter
    cases letter
  · rw [identifierOf_of_notMem reserved]

/-- The methods of a class in Kotlin or in Java are hygienic exactly if no property is called like a
name that is bound where the property is used. -/
theorem Context.Declares.methods_hygienic_iff (backend : context.language ≠ .python)
    (declares : context.Declares id declaration) : ∃ marked, context.Marks id marked ∧
      marked.written = declaration ∧
      ((∀ method ∈ marked.bodies, method.Hygienic) ↔ context.NamesApart id) := by
  obtain ⟨marked, marks, written, names⟩ := declares.exists_marks backend
  refine ⟨marked, marks, written, ?_⟩
  rw [MarkedDeclaration.bodies, List.forall_mem_cons, names.constructor.hygienic_iff, names.methods]
  have apart {binds : List String} (known : ∀ name ∈ binds,
      name ∈ context.constructorBinds id ∨ name ∈ context.comparisonBinds id)
      (properties : List Property) : (∀ name ∈ binds, ∀ property ∈ properties,
        name ≠ Text.withoutLineFeed (identifierOf context.language property.name)) ↔
      ∀ name ∈ binds, ∀ property ∈ properties, name ≠ Text.withoutLineFeed property.name := by
    refine forall₂_congr fun name isBound => forall₂_congr fun property _ => not_congr ?_
    obtain ⟨free, letter⟩ := plain_of_mem_binds (known name isBound)
    exact eq_withoutLineFeed_identifierOf_iff free letter
  rw [apart fun name => .inl, apart fun name => .inr]
  exact ⟨fun ⟨constructor, comparison⟩ => ⟨constructor, comparison⟩,
    fun ⟨constructor, comparison⟩ => ⟨constructor, comparison⟩⟩

/-- An article with a title and some tags that are not empty. -/
def article : Value := .object [("properties", .object [
  ("title", .object [("type", .string "string")]),
  ("tags", .object [("type", .string "array"),
    ("items", .object [("type", .string "string"), ("minLength", .int 1)])])])]

theorem Context.Declares.methods_hygienic_iff_article : ∃ id s,
    buildRoot ⟨.ofValue article, .string ""⟩ (.ofValue article) (some "Article") {} = .ok id s ∧
    ∃ (context : Context) (declaration : Declaration) (marked : MarkedDeclaration),
      context.graph = s.graph ∧ context.language = .java ∧ context.Declares 0 declaration ∧
      context.Marks 0 marked ∧ marked.written = declaration ∧
      context.constructorBinds 0 = ["item"] ∧
      context.comparisonBinds 0 = ["other", "typedOther", "hash"] ∧
      ∀ method ∈ marked.bodies, method.Hygienic := by
  let context (graph : ClassGraph) : Context := { graph, settings := {}, language := .java }
  have built : ((buildRoot ⟨.ofValue article, .string ""⟩ (.ofValue article) (some "Article") >>=
      fun _ => get).run' {}).any fun s => (context s.graph).writesText 0 ∧
        ((context s.graph).splitFields 0).1 = [] ∧
        ((context s.graph).splitFields 0).2.map (·.name) = ["title", "tags"] ∧
        (context s.graph).constructorBinds 0 = ["item"] ∧
        (context s.graph).comparisonBinds 0 = ["other", "typedOther", "hash"] := by
    decide +kernel
  obtain ⟨id, s, run, test⟩ := Build.exists_of_any built
  obtain ⟨text, inherited, own, constructor, comparison⟩ := of_decide_eq_true test
  have sound := ((Run.root run).invariant (by decide : article.distinctKeys) rfl).sound
  obtain ⟨declaration, declares⟩ := Context.declares_of_writesText sound rfl text
  obtain ⟨marked, marks, written, hygienic⟩ := Context.Declares.methods_hygienic_iff
    (show TargetLanguage.java ≠ .python by decide) declares
  refine ⟨id, s, run, context s.graph, declaration, marked, rfl, rfl, declares, marks, written,
    constructor, comparison, hygienic.2 ?_⟩
  have apart {binds : List String} (plain : ∀ name ∈ binds, ∀ called ∈ ["title", "tags"],
      name ≠ Text.withoutLineFeed called) : ∀ name ∈ binds,
        ∀ property ∈ ((context s.graph).splitFields 0).2,
          name ≠ Text.withoutLineFeed property.name := fun name isBound property mem =>
    plain name isBound _ (own ▸ List.mem_map_of_mem mem)
  constructor
  · rw [inherited, constructor]
    exact apart (by decide)
  · rw [comparison]
    exact apart (by decide)

def comparedOthers : String :=
  "return other == null ? typedOther.other == null : other.equals(typedOther.other);"

/-- A property of a class in Java may have the name of the object that is compared with it. -/
theorem record_not_hygienic : ∃ id s,
    buildRoot ⟨.ofValue (Java.record ["other"]), .string ""⟩ (.ofValue (Java.record ["other"]))
      (some "Point") {} = .ok id s ∧
    ∃ (context : Context) (declaration : Declaration) (marked : MarkedDeclaration),
      context.graph = s.graph ∧ context.language = .java ∧ context.Declares 0 declaration ∧
      (∃ part ∈ declaration.sections, indented 2 comparedOthers ∈ part) ∧
      context.Marks 0 marked ∧ marked.written = declaration ∧
      ¬∀ method ∈ marked.bodies, method.Hygienic := by
  let context (graph : ClassGraph) : Context := { graph, settings := {}, language := .java }
  let written (context : Context) : Option Declaration :=
    ((context.place 0).declaration 0 ((context.inFile 0).nestedSections
      ((context.graph.get 0).nested.map context.graph.tree))).run' {}
  have built : ((buildRoot ⟨.ofValue (Java.record ["other"]), .string ""⟩
      (.ofValue (Java.record ["other"])) (some "Point") >>= fun _ => get).run' {}).any fun s =>
        (((context s.graph).splitFields 0).2.map (·.name)).contains "other" &&
        ((context s.graph).comparisonBinds 0).contains "other" &&
        (written (context s.graph)).any
          (·.sections.any (·.contains (indented 2 comparedOthers))) := by
    decide +kernel
  obtain ⟨id, s, run, test⟩ := Build.exists_of_any built
  simp only [Bool.and_eq_true, List.contains_iff_mem, Option.any_eq_true, List.any_eq_true] at test
  obtain ⟨⟨own, binds⟩, declaration, given, compared⟩ := test
  have declares : (context s.graph).Declares 0 declaration := Emit.gives_of_run' given
  obtain ⟨marked, marks, written, names⟩ := declares.exists_marks
    (show TargetLanguage.java ≠ .python by decide)
  refine ⟨id, s, run, context s.graph, declaration, marked, rfl, rfl, declares, compared, marks,
    written, fun hygienic => ?_⟩
  obtain ⟨property, mem, name⟩ := List.mem_map.1 own
  refine names.methods.1 (fun method mem => hygienic method (List.mem_cons_of_mem _ mem)) "other"
    binds property mem ?_
  rw [name]
  exact (by decide : "other" = Text.withoutLineFeed (identifierOf .java "other"))

end

end SchemaClasses
