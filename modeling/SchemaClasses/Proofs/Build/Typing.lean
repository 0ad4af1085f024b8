import SchemaClasses.Proofs.Build.Accounted
import SchemaClasses.Proofs.Build.ReadingBuilders

/-!
# Types of properties

The type of a property is determined down to its parts. An enum in it is declared in the class that
has the property, and constraints stand only on types whose values they are about. This is read off
from the schema of the property; the enums that a class declares for one property stay declared while
the others are read.

## Main definitions

* `EnumDef.IsOf`: an enum of a class.
* `TypeRef.Determined`: a type without gaps.
* `Property.Typed`: a property with such a type, whose constraints fit the type.

## Main statements

* `ClassGraph.ReadsType.type_determined`: types that stand in schemas are determined.
* `Run.typed`: all properties are typed after a run that has succeeded.
* `Run.describes`: all properties are those of schemas then.
-/

namespace SchemaClasses

/-- An enum that a class declares: it has values, which are different. -/
structure EnumDef.IsOf (owner : ClassId) (definition : EnumDef) : Prop where
  owner : definition.owner = owner
  given : definition.values ≠ []
  distinct : definition.values.Nodup

/-- A type is determined down to its parts, in a class that declares some enums and in a graph with a
number of classes. The constraints on the items of a sequence are about values of their type. -/
inductive TypeRef.Determined (size : Nat) (owner : ClassId) (enums : List EnumDef) : TypeRef → Prop
  | primitive (kind : PrimitiveKind) (format : Value) :
      Determined size owner enums (.primitive kind format)
  | ofClass {id : ClassId} (inside : id < size) : Determined size owner enums (.ofClass id)
  | sequence {item : TypeRef} {constraints : List Constraint}
      (determined : Determined size owner enums item)
      (fit : ∀ constraint ∈ constraints, constraint.kind.appliesTo item) :
      Determined size owner enums (.sequence item constraints)
  | map {value : TypeRef} (determined : Determined size owner enums value) :
      Determined size owner enums (.map value)
  | enum {definition : EnumDef} (declared : definition ∈ enums) (isOf : definition.IsOf owner) :
      Determined size owner enums (.enum definition)

/-- The type of a property of a class is determined. Its constraints are about values of that type,
but for the one that it is required. -/
structure Property.Typed (graph : ClassGraph) (id : ClassId) (property : Property) : Prop where
  type : property.type.Determined graph.size id (graph.get id).enums
  constraints : ∀ constraint ∈ property.constraints,
    constraint.kind = .required ∨ constraint.kind.appliesTo property.type

/-! ## Enums -/

theorem nodup_eraseDups : (texts : List String) → texts.eraseDups.Nodup
  | [] => by simp
  | text :: texts => by
    rw [List.eraseDups_cons, List.nodup_cons, List.mem_eraseDups]
    exact ⟨by simp, nodup_eraseDups _⟩
termination_by texts => texts.length
decreasing_by exact Nat.lt_succ_of_le (List.length_filter_le _ _)

/-- The values of an enum are different, and there is at least one. -/
theorem EnumDef.IsOf.of_enumValues {node : Node} {values : List String}
    (given : enumValues node = .ok values) (owner : ClassId) (name path : String) :
    EnumDef.IsOf owner ⟨name, values, owner, path⟩ := by
  unfold enumValues at given
  split at given
  · rename_i first rest _
    cases texts : strings? (first :: rest) with
    | none =>
      rw [texts] at given
      cases given
    | some found =>
      rw [texts] at given
      cases given
      rw [strings?, List.mapM_cons] at texts
      obtain ⟨text, -, texts⟩ := Option.bind_eq_some_iff.1 texts
      obtain ⟨others, -, texts⟩ := Option.bind_eq_some_iff.1 texts
      cases texts
      exact ⟨rfl, by simp [List.eraseDups_cons], nodup_eraseDups _⟩
  · cases given

/-! ## Types -/

section

variable {root node keywords : Node} {graph : ClassGraph} {size : Nat} {owner id : ClassId}
  {nameHint : String} {enums enums' : List EnumDef} {type : TypeRef}

theorem TypeRef.Determined.mono (h : type.Determined size owner enums) (more : enums ⊆ enums') :
    type.Determined size owner enums' := by
  induction h with
  | primitive kind format => exact .primitive kind format
  | ofClass inside => exact .ofClass inside
  | sequence _ fit ih => exact .sequence ih fit
  | map _ ih => exact .map ih
  | enum declared isOf => exact .enum (more declared) isOf

theorem Node.determined_of_plain (form : node.form = .ok (.plain type)) :
    type.Determined size owner enums := by
  cases Node.HasForm.of_form form with
  | plain isPrimitive =>
    obtain ⟨kind, rfl⟩ := eq_primitive_of_primitiveType isPrimitive
    exact .primitive kind _

theorem appliesTo_of_constraintsFor {constraints : List Constraint}
    (collected : constraintsFor node type = .ok constraints) :
    ∀ constraint ∈ constraints, constraint.kind.appliesTo type :=
  fun constraint mem => (stems_of_constraintsFor collected constraint mem).applies

/-- A type that stands in a schema is determined. Its enums are declared by the class that it is read
for, and so are all that have been before. -/
theorem ClassGraph.ReadsType.type_determined
    (h : graph.ReadsType root owner node nameHint enums type keywords enums')
    (own : ∀ definition ∈ enums, definition.IsOf owner) :
    type.Determined graph.size owner enums' ∧ enums ⊆ enums' ∧
      ∀ definition ∈ enums', definition.IsOf owner := by
  have any (enums : List EnumDef) : anyType.Determined graph.size owner enums := .primitive _ _
  induction h with
  | classReference _ _ _ target => exact ⟨.ofClass target.inside, List.Subset.refl _, own⟩
  | typeReference _ _ _ _ ih => exact ih own
  | any => exact ⟨any _, List.Subset.refl _, own⟩
  | known _ declared =>
    have mem := List.mem_of_find?_eq_some declared
    exact ⟨.enum mem (own _ mem), List.Subset.refl _, own⟩
  | @enum node _ name enums values _ given =>
    have isOf := EnumDef.IsOf.of_enumValues given owner name node.path
    refine ⟨.enum (by simp) isOf, List.subset_append_left _ _, fun definition mem => ?_⟩
    rcases List.mem_append.1 mem with mem | mem
    · exact own definition mem
    · exact List.mem_singleton.1 mem ▸ isOf
  | nullable _ _ ih => exact ih own
  | ofClass _ target => exact ⟨.ofClass target.inside, List.Subset.refl _, own⟩
  | anySequence => exact ⟨.sequence (any _) (by simp), List.Subset.refl _, own⟩
  | sequence _ _ collected ih =>
    obtain ⟨determined, more, own'⟩ := ih own
    exact ⟨.sequence determined (appliesTo_of_constraintsFor collected), more, own'⟩
  | map _ _ ih =>
    obtain ⟨determined, more, own'⟩ := ih own
    exact ⟨.map determined, more, own'⟩
  | plain form => exact ⟨Node.determined_of_plain form, List.Subset.refl _, own⟩

/-! ## Classes -/

/-- A constraint of a property is about values of its type, but for the one that it is required. -/
theorem appliesTo_of_property {schema : PropertySchema} {default? : Option Value}
    {constraints : List Constraint} (collected : constraintsFor keywords type = .ok constraints) :
    ∀ constraint ∈ (schema.property type default? constraints).constraints,
      constraint.kind = .required ∨ constraint.kind.appliesTo type := by
  intro constraint mem
  rcases List.mem_append.1 mem with mem | mem
  · split at mem
    · exact .inl (List.mem_singleton.1 mem ▸ rfl)
    · cases mem
  · exact .inr (appliesTo_of_constraintsFor collected constraint mem)

/-- The properties that stand in schemas are typed by the enums that are declared at the end. -/
theorem Threaded.types_determined {schemas : List PropertySchema} {properties : List Property}
    (h : Threaded (graph.ReadsProperty root owner) schemas enums properties enums')
    (own : ∀ definition ∈ enums, definition.IsOf owner) :
    enums ⊆ enums' ∧ ∀ property ∈ properties,
      property.type.Determined graph.size owner enums' ∧ ∀ constraint ∈ property.constraints,
        constraint.kind = .required ∨ constraint.kind.appliesTo property.type := by
  induction h with
  | nil => exact ⟨List.Subset.refl _, fun _ mem => by cases mem⟩
  | cons first _ ih =>
    cases first with
    | of typed _ collected =>
      obtain ⟨determined, more, own'⟩ := typed.type_determined own
      obtain ⟨more', others⟩ := ih own'
      refine ⟨List.Subset.trans more more', fun property mem => ?_⟩
      rcases List.mem_cons.1 mem with rfl | mem
      · exact ⟨determined.mono more', appliesTo_of_property collected⟩
      · exact others property mem

theorem ClassGraph.ReadsContent.typed {schemas : List PropertySchema}
    (h : graph.ReadsContent root id schemas) :
    ∀ property ∈ (graph.get id).properties, property.Typed graph id := by
  intro property mem
  obtain ⟨type, constraints⟩ := (Threaded.types_determined h fun _ mem => by cases mem).2 property mem
  exact ⟨type, constraints⟩

theorem ClassGraph.ReadsClass.typed (h : graph.ReadsClass root id) :
    ∀ property ∈ (graph.get id).properties, property.Typed graph id := by
  cases h with
  | filled _ _ _ _ _ _ content => exact content.typed
  | variant _ _ _ _ _ _ content => exact content.typed

end

/-! ## Runs -/

section

variable {source : Source} {registered : List Definition} {returned : List (Definition × ClassId)}
  {s : BuildState} {id : ClassId}

/-- All properties are typed after a run that has succeeded. -/
theorem Run.typed (distinct : source.root.value.distinctKeys) (top : source.root.path = "")
    (run : Run source registered returned true s) (inside : id < s.graph.size) :
    ∀ property ∈ (s.graph.get id).properties, property.Typed s.graph id :=
  (run.readsClass distinct top rfl inside).typed

/-- All properties are those of schemas of the document after a run that has succeeded. -/
theorem Run.describes (distinct : source.root.value.distinctKeys) (top : source.root.path = "")
    (run : Run source registered returned true s) : s.Describes source.root {} := by
  have start := BuildState.Describes.of_empty source.root
  generalize eq : true = succeeded at run
  induction run with
  | start => exact start
  | @root name? _ _ run => exact ((buildRoot_accounted start name?).of_ok run).1
  | rootFails => cases eq
  | register found run =>
    have within (entry : Definition) (mem : entry ∈ _) := Node.Within.of_definitions found mem
    exact ((registerDefinitions_accounted [] start within).of_ok run).1
  | registerFails => cases eq
  | @build _ _ _ _ _ entry _ before mem run ih =>
    obtain ⟨keyed, isClass, -⟩ := (before.invariant distinct top).registration entry mem
    have built := source.classFor_accounted [] [] (ih eq) rfl keyed.within isClass
      (fun _ mem => by cases mem) entry.name
    exact (built.of_ok run).1.finish
  | buildFails => cases eq

end

end SchemaClasses
