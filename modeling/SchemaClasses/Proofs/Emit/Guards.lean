import SchemaClasses.Proofs.Emit.Outline
import SchemaClasses.Proofs.Emit.Superclasses

/-!
# The guards that are written

Which guards of a property are written does not depend on the place: in Java a guard is left out
when the type of the field is one without a null, and the name of a class is no such type wherever
it stands. A guard that is written has a line.

## Main definitions

* `TypeRef.isUnboxed`: whether a type of Java has no null.
* `Context.guardsOf`: the guards of a property that a language writes out.

## Main statements

* `Context.guardsOf_of_gives`: the guards that are written in any place are these.
* `ne_nil_of_statementLines`: a guard has a line.
-/

namespace SchemaClasses

def TypeRef.isUnboxed (nullable : Bool) : TypeRef → Bool
  | .primitive kind _ => !nullable && (boxed? (TargetLanguage.java.primitiveName kind)).isSome
  | _ => false

/-- Whether a guard is left out because the type of the property makes the check. -/
def Property.implies (language : TargetLanguage) (property : Property) (guard : Guard) : Bool :=
  guard.kind = .required && (language = .kotlin ||
    language = .java && property.type.isUnboxed property.nullable)

def Context.guardsOf (context : Context) (property : Property) : Except Failure (List Guard) := do
  if !context.settings.addValidation.isTruthy then return []
  let guards ← property.guards
  let kept := guards.filter fun guard => !property.implies context.language guard
  if context.language = .java && property.default?.isSome then
    return kept.map fun guard => { guard with nullable := true }
  return kept

/-! ## Types without a null -/

/-- The types of Java without a null are written in small letters. -/
theorem isLower_of_boxed? {text : String} (h : (boxed? text).isSome) {c : Char}
    (mem : c ∈ text.toList) : c.isLower := by
  unfold boxed? at h
  refine List.all_eq_true.1 (?_ : text.toList.all Char.isLower) c mem
  split at h
  · decide
  · decide
  · decide
  · decide
  · cases h

theorem boxed?_eq_none {text : String} {c : Char} (mem : c ∈ text.toList) (other : ¬c.isLower) :
    (boxed? text).isSome = false :=
  Bool.eq_false_iff.2 fun boxed => other (isLower_of_boxed? boxed mem)

theorem IsClassName.boxed?_eq_none {name : String} (h : IsClassName name) :
    (boxed? name).isSome = false := by
  obtain ⟨first, begins, notLower⟩ := h.exists_head
  exact SchemaClasses.boxed?_eq_none (List.mem_of_mem_head? begins) notLower

/-- A dotted name is not a type without a null, unless its only part is one. -/
theorem boxed?_intercalate {name : String} (named : (boxed? name).isSome = false)
    (inner : List String) : (boxed? (".".intercalate (name :: inner))).isSome = false := by
  cases inner with
  | nil => simpa using named
  | cons next rest => exact boxed?_eq_none (c := '.') (by simp) (by decide)

namespace Emit

variable {α : Type}

theorem not_gives_unsupported {language : TargetLanguage} {construct : String} {x : α} :
    ¬(Emit.unsupported language construct : Emit α).Gives x := by
  rintro ⟨_, _, run⟩
  cases run

theorem not_gives_throw {failure : Failure} {x : α} : ¬(throw failure : Emit α).Gives x := by
  rintro ⟨_, _, run⟩
  cases run

/-- A filter whose tests give the values of `q` keeps what `q` holds for, the last one first. -/
theorem Gives.of_filterAuxM {p : α → Emit Bool} {q : α → Bool} {as kept kept' : List α}
    (each : ∀ a ∈ as, ∀ b, (p a).Gives b → b = q a) (h : (as.filterAuxM p kept).Gives kept') :
    kept' = (as.filter q).reverse ++ kept := by
  induction as generalizing kept with
  | nil => exact (Gives.of_pure h).symm
  | cons first rest ih =>
    obtain ⟨keeps, given, h⟩ := Gives.of_bind h
    obtain ⟨here, others⟩ := List.forall_mem_cons.1 each
    have eq := ih others h
    rw [here _ given] at eq
    rw [eq]
    cases found : q first <;> simp [found]

theorem Gives.of_filterM {p : α → Emit Bool} {q : α → Bool} {as kept : List α}
    (each : ∀ a ∈ as, ∀ b, (p a).Gives b → b = q a) (h : (as.filterM p).Gives kept) :
    kept = as.filter q := by
  obtain ⟨reversed, collected, result⟩ := Gives.of_bind h
  rw [← result.of_pure, Gives.of_filterAuxM each collected]
  simp

end Emit

section

variable {context : Context}

/-- The name of a class or an enum is not a type without a null, even when it stands alone. -/
theorem boxed?_of_gives_qualify (java : context.language = .java)
    (named : ∀ id, (boxed? (context.graph.get id).name).isSome = false) {head : ClassId}
    {inner : List String} {text : String} (h : (context.qualify head inner).Gives text) :
    (boxed? text).isSome = false := by
  rw [Context.qualify_eq (by rw [java]; decide)] at h
  split at h
  · exact h.of_pure ▸ boxed?_intercalate (named head) inner
  · split at h
    · exact h.of_pure ▸ boxed?_eq_none (c := '.') (by simp) (by decide)
    · exact absurd h Emit.not_gives_unsupported

/-- A primitive type of Java is written by its boxed name if it is nullable. -/
theorem eq_of_gives_primitiveText {kind : PrimitiveKind} {nullable : Bool} {text : String}
    (h : (primitiveText .java kind nullable).Gives text) :
    text = if nullable then (boxed? (TargetLanguage.java.primitiveName kind)).getD
      (TargetLanguage.java.primitiveName kind) else TargetLanguage.java.primitiveName kind := by
  unfold primitiveText at h
  extract_lets name finish imported at h
  have finished (done : Unit) (h : (imported done).Gives text) :
      (if nullable then (boxed? name).getD name else name) = text := h.of_pure
  split at h
  · obtain ⟨done, -, h⟩ := h.of_bind
    exact (finished done h).symm
  · exact (finished () h).symm

theorem eq_of_gives_finish (java : context.language = .java) {nullable : Bool} {name text : String}
    (h : (Context.typeName.finish context nullable name).Gives text) : name = text := by
  rw [← h.of_pure, java]
  split <;> rfl

/-- The type of a sequence has a null. -/
theorem boxed?_of_gives_sequence (java : context.language = .java) {item : TypeRef}
    {constraints : List Constraint} {nullable : Bool} {text : String}
    (h : (context.typeName nullable (.sequence item constraints)).Gives text) :
    (boxed? text).isSome = false := by
  obtain ⟨_, -, h⟩ := h.of_bind
  obtain ⟨inner, -, h⟩ := h.of_bind
  rw [← eq_of_gives_finish java h, java]
  exact boxed?_eq_none (c := '<') (by simp [sequenceType]) (by decide)

/-- The text of a type is one without a null if the type is. -/
theorem boxed?_of_gives_typeName (java : context.language = .java)
    (named : ∀ id, (boxed? (context.graph.get id).name).isSome = false) {type : TypeRef}
    {nullable : Bool} {text : String} (h : (context.typeName nullable type).Gives text) :
    (boxed? text).isSome = type.isUnboxed nullable := by
  cases type with
  | primitive kind format =>
    obtain ⟨name, given, h⟩ := h.of_bind
    obtain rfl := eq_of_gives_finish java h
    rw [java] at given
    rw [eq_of_gives_primitiveText given]
    cases nullable <;> cases kind <;> rfl
  | ofClass id =>
    obtain ⟨name, given, h⟩ := h.of_bind
    exact eq_of_gives_finish java h ▸ boxed?_of_gives_qualify java named given
  | enum definition =>
    obtain ⟨name, given, h⟩ := h.of_bind
    exact eq_of_gives_finish java h ▸ boxed?_of_gives_qualify java named given
  | sequence item constraints => exact boxed?_of_gives_sequence java h
  | map value =>
    obtain ⟨_, -, h⟩ := h.of_bind
    obtain ⟨inner, -, h⟩ := h.of_bind
    rw [← eq_of_gives_finish java h, java]
    exact boxed?_eq_none (c := '<') (by simp [mapType]) (by decide)
  | undetermined => exact absurd h Emit.not_gives_unsupported
  | absent => exact absurd h Emit.not_gives_throw

/-! ## Guards -/

/-- Whether a guard is left out depends on the type of the property, as it is written. -/
theorem implies_of_gives_impliedByType
    (named : ∀ id, (boxed? (context.graph.get id).name).isSome = false) {property : Property}
    {guard : Guard} {implied : Bool} (h : (context.impliedByType property guard).Gives implied) :
    implied = property.implies context.language guard := by
  unfold Context.impliedByType at h
  split at h
  · rename_i kotlin required
    simp [← h.of_pure, Property.implies, kotlin, required]
  · rename_i java required
    obtain ⟨text, given, h⟩ := h.of_bind
    have boxed := boxed?_of_gives_typeName java named given
    simp [← h.of_pure, Property.implies, java, required, boxed]
  · rename_i notKotlin notJava
    rw [← h.of_pure]
    grind [Property.implies]

/-- The guards of a property that are written in any place are the same ones. -/
theorem guardsOf_of_gives
    (named : ∀ id, (boxed? (context.graph.get id).name).isSome = false) {property : Property}
    {guards : List Guard} (h : (context.writtenGuards property).Gives guards) :
    context.guardsOf property = .ok guards := by
  unfold Context.writtenGuards at h
  unfold Context.guardsOf
  split at h
  · rename_i off
    rw [if_pos off, ← h.of_pure]
    rfl
  · rename_i on
    obtain ⟨all, given, h⟩ := h.of_bind
    obtain ⟨kept, filtered, h⟩ := h.of_bind
    obtain rfl : kept = all.filter fun guard => !property.implies context.language guard :=
      filtered.of_filterM fun guard _ keeps h => by
        obtain ⟨implied, given, h⟩ := h.of_bind
        rw [← h.of_pure, implies_of_gives_impliedByType named given]
    rw [if_neg on, given.of_ofExcept]
    split at h
    · rename_i nullable
      exact h.of_pure ▸ if_pos nullable
    · rename_i plain
      exact h.of_pure ▸ if_neg plain

end

/-! ## Lines -/

theorem exists_templateAt_guard (language : TargetLanguage) :
    ∃ first rest, templateAt language "_template.guard" = .ok (.block (first :: rest)) := by
  cases language
  · exact ⟨_, _, rfl⟩
  · exact ⟨_, _, rfl⟩
  · exact ⟨_, _, rfl⟩

/-- The lines of a guard are not empty. -/
theorem ne_nil_of_filledBlock {language : TargetLanguage} {values : List (String × String)}
    {lines : List String} (h : filledBlock language "_template.guard" values = .ok lines) :
    lines ≠ [] := by
  obtain ⟨first, rest, found⟩ := exists_templateAt_guard language
  unfold filledBlock at h
  rw [filledEntry_eq, found] at h
  obtain ⟨value, filled, h⟩ := Except.bind_eq_ok_iff.1 h
  obtain ⟨_, isBlock, filled⟩ := Except.bind_eq_ok_iff.1 filled
  cases isBlock
  obtain ⟨texts, given, filled⟩ := Except.bind_eq_ok_iff.1 filled
  rw [List.mapM_cons] at given
  obtain ⟨text, -, given⟩ := Except.bind_eq_ok_iff.1 given
  obtain ⟨others, -, given⟩ := Except.bind_eq_ok_iff.1 given
  cases given
  cases filled
  cases h
  simp [Value.string?]

/-- A guard has a line. -/
theorem ne_nil_of_statementLines {language : TargetLanguage} {guard : Guard}
    {value itemType : String} {key? : Option String} {lines : List String}
    (h : statementLines language guard value itemType key? = .ok lines) : lines ≠ [] := by
  unfold statementLines at h
  extract_lets target inline finish stated at h
  have finished (looped : List String) (nonempty : looped ≠ [])
      (h : finish looped = .ok lines) : lines ≠ [] := by
    unfold finish at h
    split at h
    · obtain ⟨present, -, h⟩ := Except.bind_eq_ok_iff.1 h
      cases h
      exact List.cons_ne_nil _ _
    · cases h
      exact nonempty
  have statement (condition : String) (h : stated condition = .ok lines) : lines ≠ [] := by
    obtain ⟨actual?, -, h⟩ := Except.bind_eq_ok_iff.1 h
    obtain ⟨statement, block, h⟩ := Except.bind_eq_ok_iff.1 h
    split at h
    · obtain ⟨loop, -, h⟩ := Except.bind_eq_ok_iff.1 h
      exact finished _ (List.cons_ne_nil _ _) h
    · exact finished _ (ne_nil_of_filledBlock block) h
  obtain ⟨test, -, h⟩ := Except.bind_eq_ok_iff.1 h
  split at h
  · obtain ⟨condition, -, h⟩ := Except.bind_eq_ok_iff.1 h
    exact statement condition h
  · exact statement test h

theorem ne_nil_of_gives_guardLines {language : TargetLanguage} {guard : Guard}
    {value itemType : String} {key? : Option String} {lines : List String}
    (h : (guardLines language guard value itemType key?).Gives lines) : lines ≠ [] := by
  unfold guardLines at h
  obtain ⟨_, -, h⟩ := h.of_bind
  exact ne_nil_of_statementLines h.of_ofExcept

end SchemaClasses
