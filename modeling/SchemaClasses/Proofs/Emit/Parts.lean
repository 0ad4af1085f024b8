import SchemaClasses.Proofs.Emit.Accounted

/-!
# The parts of a declaration

A declaration is put together from parts that are written one after another. What a declaration
says is known from what its parts say, and so the declarations of each language are taken apart
here, once.

## Main definitions

* `Kotlin.Parts`, `Java.Parts`, `Python.Parts`: the parts of a declaration.
* `Kotlin.Parts.Declare`, `Java.Parts.Declare`, `Python.Parts.Declare`: a declaration is put
  together from parts.

## Main statements

* `Kotlin.exists_parts`, `Java.exists_parts`, `Python.exists_parts`: every declaration has its
  parts.
-/

namespace SchemaClasses

open Emit

def WritesSuperclass (superclass? : Option ClassId) (name : ClassId → Emit String)
    (around : String → String) (text : String) : Prop :=
  match superclass? with
  | some base => ∃ written, (name base).Gives written ∧ text = around written
  | none => text = ""

def WritesComparison (writes : Bool) (equals hash : Emit Section) (parts : List Section) : Prop :=
  if writes then
    ∃ equalsPart hashPart, equals.Gives equalsPart ∧ hash.Gives hashPart ∧
      parts = [equalsPart, hashPart]
  else parts = []

theorem WritesComparison.forall {writes : Bool} {equals hash : Emit Section}
    {parts : List Section} (h : WritesComparison writes equals hash parts) {P : Section → Prop}
    (ofEquals : ∀ part, equals.Gives part → P part) (ofHash : ∀ part, hash.Gives part → P part) :
    ∀ part ∈ parts, P part := by
  unfold WritesComparison at h
  split at h
  · obtain ⟨equalsPart, hashPart, isEquals, isHash, rfl⟩ := h
    exact List.forall_mem_cons.2
      ⟨ofEquals _ isEquals, List.forall_mem_singleton.2 (ofHash _ isHash)⟩
  · simp [h]

/-- A superclass is written with its name. -/
theorem WritesSuperclass.exists_rel {superclass? : Option ClassId} {name : ClassId → Emit String}
    {around : String → String} {text : String}
    (h : WritesSuperclass superclass? name around text) : ∃ written? : Option String,
      Option.Rel (fun base written => (name base).Gives written) superclass? written? ∧
        text = written?.elim "" around := by
  cases superclass? with
  | none => exact ⟨none, .none, h⟩
  | some base =>
    obtain ⟨written, given, eq⟩ := h
    exact ⟨some written, .some given, eq⟩

variable {context : Context} {id : ClassId} {nested : Emit (List Section)}
  {declaration : Declaration} {part : Section} {definition : EnumDef} {own : List Property}

/-! ## Kotlin -/

namespace Kotlin

theorem exists_enumSection (h : (enumSection definition).Gives part) :
    ∃ rest, part = Text.indent (("enum class " ++ definition.name ++ " \x7b") :: rest) := by
  obtain ⟨constants, -, h⟩ := h.of_bind
  exact ⟨_, by rw [← h.of_pure, List.append_assoc]; rfl⟩

structure Parts where
  passed : List String
  declared : List String
  supertype : String
  enums : List Section
  init : List Section
  equality : List Section
  inner : List Section

/-- The declaration of a class is put together from parts. -/
structure Parts.Declare (parts : Parts) (context : Context) (id : ClassId)
    (nested : Emit (List Section)) (declaration : Declaration) : Prop where
  passed : ((context.splitFields id).1.mapM (parameter context false)).Gives parts.passed
  declared : ((context.splitFields id).2.mapM (parameter context true)).Gives parts.declared
  supertype : (superclassCall context id (context.splitFields id).1
    (context.superclass? id)).Gives parts.supertype
  enums : ((context.graph.get id).enums.mapM enumSection).Gives parts.enums
  init : (initSections context (context.splitFields id).2).Gives parts.init
  equality : WritesComparison (writesEquality (context.graph.get id).kind)
    (equalsSection (context.graph.get id).name (context.superclass? id).isSome
      (context.splitFields id).2)
    (hashSection (context.superclass? id).isSome (context.splitFields id).2) parts.equality
  inner : nested.Gives parts.inner
  head : declaration.head = Kotlin.head
    (classWords (context.graph.get id).kind ++ " " ++ (context.graph.get id).name) parts.supertype
    (parts.passed ++ parts.declared)
  sections : declaration.sections = parts.enums ++ parts.init ++ parts.equality ++ parts.inner

/-- A declaration in Kotlin is put together from its parts. -/
theorem exists_parts (h : (Kotlin.declaration context id nested).Gives declaration) :
    ∃ parts : Parts, parts.Declare context id nested declaration := by
  unfold Kotlin.declaration at h
  extract_lets model base? at h
  cases split : context.splitFields id with
  | mk inherited own =>
    rw [split] at h
    simp -zeta only at h
    obtain ⟨passed, isPassed, h⟩ := h.of_bind
    obtain ⟨declared, isDeclared, h⟩ := h.of_bind
    obtain ⟨supertype, isSupertype, h⟩ := h.of_bind
    obtain ⟨enums, areEnums, h⟩ := h.of_bind
    obtain ⟨init, isInit, h⟩ := h.of_bind
    extract_lets finish at h
    have finished (equality : List Section)
        (isEquality : WritesComparison (writesEquality model.kind)
          (equalsSection model.name base?.isSome own) (hashSection base?.isSome own) equality)
        (h : (finish equality).Gives declaration) :
        ∃ parts : Parts, parts.Declare context id nested declaration := by
      obtain ⟨inner, isInner, h⟩ := h.of_bind
      refine ⟨⟨passed, declared, supertype, enums, init, equality, inner⟩, ?_⟩
      rw [← h.of_pure]
      refine ⟨?_, ?_, ?_, areEnums, ?_, ?_, isInner, rfl, rfl⟩
      all_goals rw [split]; assumption
    split at h
    · rename_i writes
      obtain ⟨equals, isEquals, h⟩ := h.of_bind
      obtain ⟨hash, isHash, h⟩ := h.of_bind
      refine finished [equals, hash] ?_ h
      rw [WritesComparison, if_pos writes]
      exact ⟨equals, hash, isEquals, isHash, rfl⟩
    · rename_i writes
      exact finished [] (by rw [WritesComparison, if_neg writes]) h

end Kotlin

/-! ## Java -/

namespace Java

/-- The fields of a Java class begin with the declaration of a field. -/
theorem exists_fieldLines {lines : List String} (h : (own.mapM (fieldLine context)).Gives lines)
    (nonempty : own ≠ []) : ∃ type name rest,
      lines = ("private final " ++ type ++ " " ++ name ++ ";") :: rest := by
  cases own with
  | nil => exact absurd rfl nonempty
  | cons first others =>
    rw [List.mapM_cons] at h
    obtain ⟨line, given, h⟩ := h.of_bind
    obtain ⟨rest, -, h⟩ := h.of_bind
    obtain ⟨type, -, given⟩ := given.of_bind
    obtain ⟨name, -, given⟩ := given.of_bind
    exact ⟨type, name, rest, by rw [← h.of_pure, ← given.of_pure]⟩

theorem exists_getterSection {property : Property}
    (h : (getterSection context property).Gives part) : ∃ type name rest,
      part = Text.indent (("public " ++ type ++ " " ++ getterName name ++ "() \x7b") :: rest) := by
  obtain ⟨name, -, h⟩ := h.of_bind
  obtain ⟨type, -, h⟩ := h.of_bind
  exact ⟨type, name, _, h.of_pure.symm⟩

theorem exists_enumSection (h : (enumSection definition).Gives part) :
    ∃ rest, part = Text.indent (("public enum " ++ definition.name ++ " \x7b") :: rest) := by
  obtain ⟨constants, -, h⟩ := h.of_bind
  exact ⟨_, by rw [← h.of_pure, List.append_assoc]; rfl⟩

structure Parts where
  extension : String
  fields : List String
  constructor : List Section
  getters : List Section
  equality : List Section
  enums : List Section
  inner : List Section

structure Parts.Declare (parts : Parts) (context : Context) (id : ClassId)
    (nested : Emit (List Section)) (declaration : Declaration) : Prop where
  extension : WritesSuperclass (context.superclass? id) (context.superclassName id)
    (" extends " ++ ·) parts.extension
  fields : ((context.splitFields id).2.mapM (fieldLine context)).Gives parts.fields
  constructor : (constructorSections context (context.graph.get id).name
    (context.superclass? id).isSome (context.splitFields id).1
      (context.splitFields id).2).Gives parts.constructor
  getters : ((context.splitFields id).2.mapM (getterSection context)).Gives parts.getters
  equality : WritesComparison (writesEquality (context.graph.get id).kind)
    (equalsSection context (context.graph.get id).name (context.superclass? id).isSome
      (context.splitFields id).2)
    (hashSection context (context.superclass? id).isSome (context.splitFields id).2) parts.equality
  enums : ((context.graph.get id).enums.mapM enumSection).Gives parts.enums
  inner : nested.Gives parts.inner
  head : declaration.head =
    [(if (context.graph.get id).enclosing.isSome then "public static class "
        else "public class ") ++ (context.graph.get id).name ++ parts.extension ++ " \x7b"]
  sections : declaration.sections =
    (if (context.splitFields id).2.isEmpty then [] else [Text.indent parts.fields]) ++
      parts.constructor ++ parts.getters ++ parts.equality ++ parts.enums ++ parts.inner

/-- A declaration in Java is put together from its parts. -/
theorem exists_parts (h : (Java.declaration context id nested).Gives declaration) :
    ∃ parts : Parts, parts.Declare context id nested declaration := by
  unfold Java.declaration at h
  extract_lets model base? at h
  cases split : context.splitFields id with
  | mk inherited own =>
    rw [split] at h
    simp -zeta only at h
    extract_lets extended at h
    have extendedOr (extension : String)
        (isExtension : WritesSuperclass base? (context.superclassName id) (" extends " ++ ·)
          extension)
        (h : (extended extension).Gives declaration) :
        ∃ parts : Parts, parts.Declare context id nested declaration := by
      obtain ⟨fields, areFields, h⟩ := h.of_bind
      obtain ⟨constructor, isConstructor, h⟩ := h.of_bind
      obtain ⟨getters, areGetters, h⟩ := h.of_bind
      extract_lets finish at h
      have finished (equality : List Section)
          (isEquality : WritesComparison (writesEquality model.kind)
            (equalsSection context model.name base?.isSome own)
            (hashSection context base?.isSome own) equality)
          (h : (finish equality).Gives declaration) :
          ∃ parts : Parts, parts.Declare context id nested declaration := by
        obtain ⟨enums, areEnums, h⟩ := h.of_bind
        obtain ⟨inner, isInner, h⟩ := h.of_bind
        refine ⟨⟨extension, fields, constructor, getters, equality, enums, inner⟩, ?_⟩
        rw [← h.of_pure]
        refine ⟨isExtension, ?_, ?_, ?_, ?_, areEnums, isInner, rfl, by rw [split]⟩
        all_goals rw [split]; assumption
      split at h
      · rename_i writes
        obtain ⟨equals, isEquals, h⟩ := h.of_bind
        obtain ⟨hash, isHash, h⟩ := h.of_bind
        refine finished [equals, hash] ?_ h
        rw [WritesComparison, if_pos writes]
        exact ⟨equals, hash, isEquals, isHash, rfl⟩
      · rename_i writes
        exact finished [] (by rw [WritesComparison, if_neg writes]) h
    clear_value extended base?
    split at h
    · obtain ⟨superclass, isSuperclass, h⟩ := h.of_bind
      exact extendedOr _ ⟨superclass, isSuperclass, rfl⟩ h
    · exact extendedOr "" rfl h

end Java

/-! ## Python -/

namespace Python

structure Parts where
  fields : List String
  checks : List Section
  enums : List Section
  inner : List Section
  hash : List Section
  bases : String

def Parts.sections (parts : Parts) : List Section :=
  parts.enums ++ parts.inner ++
    (if parts.fields.isEmpty then [] else [Text.indent parts.fields]) ++ parts.checks ++ parts.hash

structure Parts.Declare (parts : Parts) (context : Context) (id : ClassId)
    (nested : Emit (List Section)) (declaration : Declaration) : Prop where
  fields : ((context.splitFields id).2.mapM (fieldLine context id)).Gives parts.fields
  checks : (checkSections context (context.splitFields id).1
    (context.splitFields id).2).Gives parts.checks
  enums : ((context.graph.get id).enums.mapM enumSection).Gives parts.enums
  inner : nested.Gives parts.inner
  hash : (if (context.graph.get id).kind = .plain then pure [] else
    hashSections ((context.splitFields id).1 ++ (context.splitFields id).2)).Gives parts.hash
  bases : WritesSuperclass (context.superclass? id) (baseName context)
    (fun name => "(" ++ name ++ ")") parts.bases
  head : declaration.head =
    (if (context.graph.get id).kind = .plain then [] else
      ["@dataclass(frozen=True, kw_only=True)"]) ++
    ["class " ++ (context.graph.get id).name ++ parts.bases ++ ":"]
  sections : declaration.sections =
    if parts.sections.isEmpty then [Text.indent ["pass"]] else parts.sections

/-- A declaration in Python is put together from its parts. -/
theorem exists_parts (h : (Python.declaration context id nested).Gives declaration) :
    ∃ parts : Parts, parts.Declare context id nested declaration := by
  unfold Python.declaration at h
  extract_lets model base? at h
  cases split : context.splitFields id with
  | mk inherited own =>
    rw [split] at h
    simp -zeta only at h
    obtain ⟨fields, areFields, h⟩ := h.of_bind
    obtain ⟨checks, areChecks, h⟩ := h.of_bind
    obtain ⟨enums, areEnums, h⟩ := h.of_bind
    obtain ⟨inner, isInner, h⟩ := h.of_bind
    extract_lets hashed at h
    have finish (hash : List Section)
        (isHash : (if model.kind = .plain then pure [] else
          hashSections (inherited ++ own) : Emit (List Section)).Gives hash)
        (h : (hashed hash).Gives declaration) :
        ∃ parts : Parts, parts.Declare context id nested declaration := by
      unfold hashed at h
      extract_lets sections shown named at h
      have finished (bases : String)
          (areBases : WritesSuperclass base? (baseName context)
            (fun name => "(" ++ name ++ ")") bases)
          (h : (named bases).Gives declaration) :
          ∃ parts : Parts, parts.Declare context id nested declaration := by
        unfold named at h
        simp only at h
        refine ⟨⟨fields, checks, enums, inner, hash, bases⟩, ?_⟩
        split at h
        · rename_i plain
          rw [← h.of_pure]
          refine ⟨?_, ?_, areEnums, isInner, ?_, areBases, ?_, rfl⟩
          · rwa [split]
          · rwa [split]
          · rwa [split]
          · rw [if_pos plain]
            rfl
        · rename_i dataclass
          obtain ⟨_, -, h⟩ := h.of_bind
          rw [← h.of_pure]
          refine ⟨?_, ?_, areEnums, isInner, ?_, areBases, ?_, rfl⟩
          · rwa [split]
          · rwa [split]
          · rwa [split]
          · rw [if_neg dataclass]
            rfl
      clear_value named base?
      split at h
      · obtain ⟨superclass, isSuperclass, h⟩ := h.of_bind
        exact finished _ ⟨superclass, isSuperclass, rfl⟩ h
      · exact finished "" rfl h
    clear_value hashed
    split at h
    · rename_i plain
      obtain ⟨hash, isHash, h⟩ := h.of_bind
      exact finish hash (by rwa [if_pos plain]) h
    · rename_i dataclass
      obtain ⟨hash, isHash, h⟩ := h.of_bind
      exact finish hash (by rwa [if_neg dataclass]) h

end Python

end SchemaClasses
