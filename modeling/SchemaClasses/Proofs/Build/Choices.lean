import SchemaClasses.Proofs.Build.Settled

/-!
# The alternatives of a choice

The class of a schema with `oneOf` or `anyOf` is an open base with the properties that stand beside
the alternatives. Each alternative has a class of its own in it, also one that refers to a schema
that has a class elsewhere. The two are different classes: the alternative leaves out the properties
that are shared, and the other class keeps them.

## Main definitions

* `ClassGraph.HasOwn`: a class has the properties of a schema after those it inherits.
* `ClassGraph.KeepsOwn`: a class has all properties of a schema.
* `ClassGraph.IsVariantOf`: the class of an alternative.

## Main statements

* `Run.variants_forall₂`: the alternatives of a choice have one class each in the open base, in their
  order.
-/

namespace SchemaClasses

/-- A class has the properties of a schema that it does not inherit, in their order, after those that
it inherits. -/
structure ClassGraph.HasOwn (graph : ClassGraph) (root : Node) (id : ClassId) (schema : Node)
    (inherited : List Property) : Prop where
  all : graph.allProperties id = inherited ++ (graph.get id).properties
  own : graph.ReadsContent root id (schema.declaredProperties (inherited.map (·.name)))

/-- A class has all properties of a schema. Only an alternative inherits some of them. -/
structure ClassGraph.KeepsOwn (graph : ClassGraph) (root : Node) (id : ClassId) (schema : Node) :
    Prop where
  complete : ∀ declared ∈ schema.declaredProperties, ∃ property ∈ graph.allProperties id,
    property.name = declared.name
  hasOwn : ∃ inherited, graph.HasOwn root id schema inherited ∧
    ((graph.get id).kind ≠ .nestedVariant → inherited = [])

/-- The class of an alternative stands in the open base of its choice. It has the shared properties
and then those of its schema. If it refers to that schema, the class of the schema itself is another
one, which has all of them. -/
structure ClassGraph.IsVariantOf (graph : ClassGraph) (root : Node) (base variant : ClassId)
    (alternative : Node) : Prop where
  built : (graph.get variant).built
  enclosing : (graph.get variant).enclosing = some base
  isBase : (graph.get variant).base = some base
  path : (graph.get variant).path = alternative.path
  schema : ∃ schema, root.alternativeTarget alternative = .ok schema ∧
    graph.HasOwn root variant schema (graph.get base).properties ∧
    (alternative.has "$ref" → ∀ other, other < graph.size →
      (graph.get other).path = schema.path →
        other ≠ variant ∧ ((graph.get other).built → graph.KeepsOwn root other schema))

/-! ## Properties -/

section

variable {root node schema alternative : Node} {graph : ClassGraph} {id base : ClassId}

theorem Node.mem_declaredProperties {declared : PropertySchema} {skipped : List String}
    (mem : declared ∈ node.declaredProperties) (unskipped : declared.name ∉ skipped) :
    declared ∈ node.declaredProperties skipped := by
  unfold Node.declaredProperties at mem ⊢
  split at mem
  · cases mem
  · obtain ⟨member, hmember, rfl⟩ := List.mem_map.1 mem
    refine List.mem_map.2 ⟨member, ?_, rfl⟩
    simpa [unskipped] using hmember

/-- A property of the schema is inherited, or it is one of those that are not. -/
theorem ClassGraph.HasOwn.keepsOwn {inherited : List Property}
    (h : graph.HasOwn root id schema inherited)
    (none : (graph.get id).kind ≠ .nestedVariant → inherited = []) :
    graph.KeepsOwn root id schema := by
  refine ⟨fun declared mem => ?_, inherited, h, none⟩
  rw [h.all]
  by_cases known : declared.name ∈ inherited.map (·.name)
  · obtain ⟨property, hproperty, name⟩ := List.mem_map.1 known
    exact ⟨property, List.mem_append_left _ hproperty, name⟩
  · obtain ⟨property, hproperty, name, -⟩ :=
      exists_of_forall₂ h.own.forall₂ (Node.mem_declaredProperties mem known)
    exact ⟨property, List.mem_append_right _ hproperty, name⟩

/-- An alternative has the properties of its open base before its own. -/
theorem ClassGraph.Composition.allProperties_of_variant (h : graph.Composition root)
    (kind : (graph.get id).kind = .nestedVariant) (isBase : (graph.get id).base = some base) :
    graph.allProperties id = (graph.get base).properties ++ (graph.get id).properties := by
  have isOpen : (graph.get base).kind = .openBase := by
    rcases h.base isBase with variant | extension
    · exact variant.baseKind
    · exact absurd kind (ClassKind.ne_of_plain_or_data extension.kind).2
  rw [allProperties_eq h.founded (lt_size_of_variant kind), isBase, Option.elim_some,
    allProperties_eq h.founded (h.founded.lt_size isBase), h.base_of_openBase isOpen,
    Option.elim_none, List.nil_append]

/-! ## Schemas of alternatives -/

theorem isClass_of_isAlternativeSchema (simple : isAlternativeSchema schema = .ok true) :
    isComposed schema = false ∧ isClassSchema schema true = .ok true := by
  unfold isAlternativeSchema at simple
  split at simple
  · cases simple
  · rename_i single
    exact ⟨by simpa using single, simple⟩

theorem Node.alternativeTarget_of_isClass (isClass : isClassSchema schema true = .ok true) :
    root.alternativeTarget schema = .ok schema := by
  have direct : ¬schema.has "$ref" := by
    intro isReference
    rw [not_isClass_of_reference isReference] at isClass
    cases isClass
  rw [Node.alternativeTarget, if_neg direct]

theorem Node.within_of_alternativeTarget (within : root.Within alternative)
    (target : root.alternativeTarget alternative = .ok schema) : root.Within schema := by
  unfold Node.alternativeTarget at target
  split at target
  · obtain ⟨resolved, follows, target⟩ := Except.bind_eq_ok_iff.1 target
    cases target
    exact within.follow follows
  · cases target
    exact within

/-- The class of a schema that composes no others has all properties of the schema. -/
theorem ClassGraph.ReadsClass.keepsOwn (h : graph.ReadsClass root id)
    (composition : graph.Composition root) (distinct : root.value.distinctKeys)
    (top : root.path = "") (inside : id < graph.size) (within : root.Within schema)
    (simple : isAlternativeSchema schema = .ok true) (path : (graph.get id).path = schema.path) :
    graph.KeepsOwn root id schema := by
  obtain ⟨single, isClass⟩ := isClass_of_isAlternativeSchema simple
  cases h with
  | @filled node base? schemas within' path' parts kind _ base content =>
    obtain rfl := within.eq_of_path distinct top within' (path.symm.trans path')
    have noAllOf : schema.member? "allOf" = none := by
      simp only [isComposed, compositionKeywords, List.any_cons, Bool.or_eq_false_iff] at single
      simpa [Node.has, Node.member?] using single.1
    simp only [Node.parts, noAllOf] at parts
    cases parts
    have noBase : (graph.get id).base = none := by
      generalize (graph.get id).base = found at base
      cases base
      rfl
    have all : graph.allProperties id = [] ++ (graph.get id).properties := by
      rw [allProperties_eq composition.founded inside, noBase, Option.elim_none]
    exact HasOwn.keepsOwn ⟨all, content⟩ fun _ => rfl
  | @variant choice alternative' schema' base isAlternative path' kind isBase target _ content =>
    obtain rfl := within.eq_of_path distinct top isAlternative.within (path.symm.trans path')
    rw [Node.alternativeTarget_of_isClass isClass] at target
    cases target
    exact HasOwn.keepsOwn ⟨composition.allProperties_of_variant kind isBase, content⟩
      fun notVariant => absurd kind notVariant

theorem Node.within_of_mem_alternatives {choice : Node} (within : root.Within choice)
    (mem : alternative ∈ choice.alternatives) : root.Within alternative := by
  unfold Node.alternatives at mem
  cases found : choice.member? (if choice.has "oneOf" then "oneOf" else "anyOf") with
  | none =>
    rw [found] at mem
    cases mem
  | some alternatives =>
    rw [found] at mem
    exact (within.member? found).items mem

/-- A class with alternatives is no extension. -/
theorem Node.noAllOf_of_parts (isChoice : node.has "oneOf" ∨ node.has "anyOf")
    {parts : Option Node × List PropertySchema} (given : root.parts node = .ok parts) :
    node.member? "allOf" = none := by
  unfold Node.parts at given
  split at given
  · assumption
  · rename_i members found
    obtain ⟨_, splits, -⟩ := Except.bind_eq_ok_iff.1 given
    have both : (node.has "oneOf" || node.has "anyOf") = true := by simpa using isChoice
    unfold splitAllOf at splits
    simp only [both, if_true] at splits
    split at splits <;> cases splits

theorem forall₂_of_map_eq {α β γ : Type} {f : α → γ} {g : β → γ} {R : α → β → Prop} {as : List α}
    {bs : List β} (eq : as.map f = bs.map g) (h : ∀ a ∈ as, ∀ b ∈ bs, f a = g b → R a b) :
    List.Forall₂ R as bs := by
  induction as generalizing bs with
  | nil => cases bs <;> simp_all
  | cons a as ih => cases bs <;> simp_all

end

/-! ## Runs -/

section

variable {document package : Value} {registered : List Definition}
  {returned : List (Definition × ClassId)} {succeeded : Bool} {s : BuildState}
  {choice alternative : Node} {id variant : ClassId}

/-- An alternative has the shared properties and then its own; the class that it refers to has all
of them. -/
theorem Run.isVariantOf (distinct : document.distinctKeys)
    (run : Run ⟨.ofValue document, package⟩ registered returned succeeded s)
    (within : (Node.ofValue document).Within alternative) (built : (s.graph.get id).built)
    (mem : variant ∈ s.graph.variants id) (path : (s.graph.get variant).path = alternative.path) :
    s.graph.IsVariantOf (.ofValue document) id variant alternative := by
  have invariant := run.invariant distinct rfl
  have composition := invariant.sound.composition
  obtain ⟨nested, isVariant⟩ := ClassGraph.mem_variants mem
  have enclosing := invariant.sound.nesting.enclosing_of_mem_nested nested
  have complete := invariant.ordered.complete built enclosing
  cases (run.settled distinct rfl variant complete).reads with
  | filled _ _ _ kind => exact absurd isVariant kind
  | @variant choice' alternative' schema base isAlternative path' kind isBase target simple content =>
    obtain rfl := within.eq_of_path distinct rfl isAlternative.within (path.symm.trans path')
    obtain rfl : base = id := by
      rcases composition.base isBase with found | extension
      · exact Option.some.inj (found.enclosing.symm.trans enclosing)
      · exact absurd kind (ClassKind.ne_of_plain_or_data extension.kind).2
    refine ⟨complete, enclosing, isBase, path, schema, target,
      ⟨composition.allProperties_of_variant kind isBase, content⟩,
      fun isReference other inside at' => ⟨?_, fun otherBuilt => ?_⟩⟩
    · rintro rfl
      have withinSchema := Node.within_of_alternativeTarget within target
      obtain rfl := within.eq_of_path distinct rfl withinSchema (path.symm.trans at')
      have isClass := (isClass_of_isAlternativeSchema simple).2
      rw [not_isClass_of_reference isReference] at isClass
      cases isClass
    · exact (run.settled distinct rfl other otherBuilt).reads.keepsOwn composition distinct rfl
        inside (Node.within_of_alternativeTarget within target) simple at'

/-- The class of a choice is an open base with the properties that stand beside the alternatives, and
among the classes in it there is one for each alternative, in the order of the alternatives. -/
theorem Run.variants_forall₂ (distinct : document.distinctKeys)
    (run : Run ⟨.ofValue document, package⟩ registered returned succeeded s)
    (within : (Node.ofValue document).Within choice)
    (isClass : isClassSchema choice true = .ok true)
    (isChoice : choice.has "oneOf" ∨ choice.has "anyOf") (built : (s.graph.get id).built)
    (path : (s.graph.get id).path = choice.path) :
    (s.graph.get id).kind = .openBase ∧
      s.graph.ReadsContent (.ofValue document) id choice.declaredProperties ∧
      List.Forall₂ (s.graph.IsVariantOf (.ofValue document) id) (s.graph.variants id)
        choice.alternatives := by
  obtain ⟨reads, arranged⟩ := run.settled distinct rfl id built
  have composed : isComposed choice := by
    rcases isChoice with has | has <;> simp [isComposed, compositionKeywords, has]
  obtain ⟨_, _, parts, isOpen, content⟩ :=
    reads.of_composed distinct rfl within isClass composed path
  have noAllOf := Node.noAllOf_of_parts isChoice parts
  simp only [Node.parts, noAllOf] at parts
  cases parts
  have direct : choice.has "allOf" = false := by simpa [Node.has, Node.member?] using noAllOf
  have kind := isOpen.2 (by simpa [Node.isChoice, direct] using isChoice)
  refine ⟨kind, content, forall₂_of_map_eq (arranged within kind path) ?_⟩
  exact fun variant mem alternative hmem path => run.isVariantOf distinct
    (Node.within_of_mem_alternatives within hmem) built mem path

/-- An event is an upload of a file or a login, and may have a login before it. -/
def event : Value := .object [
  ("title", .string "Event"),
  ("definitions", .object [("Login", .object [("type", .string "object"), ("properties", .object [
    ("at", .object [("type", .string "string")]),
    ("user", .object [("type", .string "string")])])])]),
  ("properties", .object [("at", .object [("type", .string "string")]),
    ("previous", .object [("$ref", .string "#/definitions/Login")])]),
  ("anyOf", .array [
    .object [("title", .string "Upload"), ("properties", .object [("file", .object [
      ("properties", .object [("size", .object [("type", .string "integer")])])])])],
    .object [("$ref", .string "#/definitions/Login")]])]

theorem Run.variants_forall₂_event : ∃ id s,
    buildRoot ⟨.ofValue event, .string ""⟩ (.ofValue event) none {} = .ok id s ∧
      (s.graph.get 0).nested.length = 3 ∧ (s.graph.variants 0).length = 2 ∧
      List.Forall₂ (s.graph.IsVariantOf (.ofValue event) 0) (s.graph.variants 0)
        (Node.ofValue event).alternatives := by
  have built : ((buildRoot ⟨.ofValue event, .string ""⟩ (.ofValue event) none >>=
      fun _ => get).run' {}).any fun s => (s.graph.get 0).built ∧ (s.graph.get 0).path = "" ∧
        (s.graph.get 0).nested.length = 3 ∧ (s.graph.variants 0).length = 2 := by decide +kernel
  obtain ⟨id, s, run, given⟩ := Build.exists_of_any built
  obtain ⟨complete, path, nested, variants⟩ := of_decide_eq_true given
  have all := Run.variants_forall₂ (by decide +kernel) (.root run) .root (by decide +kernel)
    (.inr (by decide +kernel)) complete path
  exact ⟨id, s, run, nested, variants, all.2.2⟩

end

end SchemaClasses
