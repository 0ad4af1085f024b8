import SchemaClasses.Proofs.Build.Settled

/-!
# What an extension requires

The own properties of an extension come from the inline members of `allOf` and from the schema itself.
Each of these parts has a list of required names of its own, which is read for the properties of that
part alone. A part that requires a property which another part declares has no say in it.

## Main definitions

* `Node.requires`: a schema requires a property.
* `Node.inlineParts`: the parts of an extension.
* `ClassGraph.CoversRequired`: what any part requires is required in the class.

## Main statements

* `Run.coversRequired_iff`: this is so exactly when each part requires those of its own properties
  that any part requires.
-/

namespace SchemaClasses

def Node.requires (node : Node) (name : String) : Bool :=
  ((node.member? "required").elim [] (·.value.items)).any (·.isString name)

/-- The schemas whose properties are those of an extension: the members of `allOf` that are no
references, and the schema itself. -/
def Node.inlineParts (node : Node) : List Node :=
  ((node.member? "allOf").elim [] (·.items)).filter (!·.has "$ref") ++ [node]

/-- The own properties of a class are required exactly when some part of its schema requires them. -/
def ClassGraph.CoversRequired (graph : ClassGraph) (id : ClassId) (node : Node) : Prop :=
  ∀ property ∈ (graph.get id).properties,
    property.required ↔ ∃ part ∈ node.inlineParts, part.requires property.name

/-- Each part requires those of its own properties that any part requires. -/
def Node.RequiresOwn (node : Node) : Prop :=
  ∀ part ∈ node.inlineParts, ∀ schema ∈ part.declaredProperties, ∀ other ∈ node.inlineParts,
    other.requires schema.name → part.requires schema.name

section

variable {root node : Node} {graph : ClassGraph} {id : ClassId}

/-! ## Parts -/

/-- The properties of a schema are required when the schema itself requires them. -/
theorem Node.isRequired_of_mem_declaredProperties {skipped : List String}
    {schema : PropertySchema} (mem : schema ∈ node.declaredProperties skipped) :
    schema.isRequired = node.requires schema.name := by
  unfold Node.declaredProperties at mem
  split at mem
  · cases mem
  · obtain ⟨member, -, rfl⟩ := List.mem_map.1 mem
    rfl

/-- The inline members are those without a reference, in their order. -/
theorem inline_of_splitAllOf {members reference : Node} {inline : List Node}
    (h : splitAllOf node members = .ok (reference, inline)) :
    inline = members.items.filter (!·.has "$ref") := by
  unfold splitAllOf at h
  simp only at h
  split at h
  · cases h
  · split at h
    · cases h
    · split at h
      · obtain ⟨_, -, h⟩ := Except.bind_eq_ok_iff.1 h
        cases h
        rfl
      · cases h

/-- The properties of an extension are declared in its parts. -/
theorem Node.schemas_of_parts (isExtension : node.has "allOf") {base? : Option Node}
    {schemas : List PropertySchema} (parts : root.parts node = .ok (base?, schemas)) :
    schemas = node.inlineParts.flatMap (·.declaredProperties) := by
  unfold Node.parts at parts
  unfold Node.inlineParts
  cases found : node.member? "allOf" with
  | none => simp [Node.has, Option.map_eq_none_iff.1 found] at isExtension
  | some members =>
    simp only [found] at parts
    obtain ⟨⟨reference, inline⟩, splits, parts⟩ := Except.bind_eq_ok_iff.1 parts
    obtain ⟨resolved, -, parts⟩ := Except.bind_eq_ok_iff.1 parts
    cases parts
    rw [inline_of_splitAllOf splits]
    rfl

/-- The class of an extension is read from its parts. -/
theorem ClassGraph.ReadsClass.content_of_allOf (h : graph.ReadsClass root id)
    (distinct : root.value.distinctKeys) (top : root.path = "") (within : root.Within node)
    (isClass : isClassSchema node true = .ok true) (isExtension : node.has "allOf")
    (path : (graph.get id).path = node.path) :
    graph.ReadsContent root id (node.inlineParts.flatMap (·.declaredProperties)) := by
  have composed : isComposed node := by simp [isComposed, compositionKeywords, isExtension]
  obtain ⟨_, _, parts, -, content⟩ := h.of_composed distinct top within isClass composed path
  exact Node.schemas_of_parts isExtension parts ▸ content

/-! ## Required properties -/

/-- The properties of a class that is read from parts are required as the parts say that declare
them. -/
theorem ClassGraph.ReadsContent.required_eq {parts : List Node}
    (h : graph.ReadsContent root id (parts.flatMap (·.declaredProperties))) {part : Node}
    (mem : part ∈ parts) {schema : PropertySchema} (declared : schema ∈ part.declaredProperties) :
    ∃ property ∈ (graph.get id).properties, property.name = schema.name ∧
      property.required = part.requires schema.name := by
  obtain ⟨property, hproperty, name, required⟩ :=
    exists_of_forall₂ h.forall₂ (List.mem_flatMap.2 ⟨part, mem, declared⟩)
  exact ⟨property, hproperty, name,
    required.trans (Node.isRequired_of_mem_declaredProperties declared)⟩

/-- Each property of a class that is read from parts is declared in one of them. -/
theorem ClassGraph.ReadsContent.exists_part {parts : List Node}
    (h : graph.ReadsContent root id (parts.flatMap (·.declaredProperties))) {property : Property}
    (mem : property ∈ (graph.get id).properties) :
    ∃ part ∈ parts, ∃ schema ∈ part.declaredProperties, schema.name = property.name ∧
      property.required = part.requires property.name := by
  obtain ⟨schema, hschema, name, required⟩ := exists_of_forall₂ h.forall₂.flip mem
  obtain ⟨part, hpart, declared⟩ := List.mem_flatMap.1 hschema
  refine ⟨part, hpart, schema, declared, name.symm, ?_⟩
  rw [required, name, Node.isRequired_of_mem_declaredProperties declared]

/-- Which properties are required in the class is read off the parts that declare them. -/
theorem ClassGraph.ReadsContent.covers_iff
    (h : graph.ReadsContent root id (node.inlineParts.flatMap (·.declaredProperties))) :
    graph.CoversRequired id node ↔ node.RequiresOwn := by
  constructor
  · intro covers part mem schema declared other hother requires
    obtain ⟨property, hproperty, name, required⟩ := h.required_eq mem declared
    rw [← required]
    exact (covers property hproperty).2 ⟨other, hother, name ▸ requires⟩
  · intro own property mem
    obtain ⟨part, hpart, schema, declared, name, required⟩ := h.exists_part mem
    rw [required]
    refine ⟨fun requires => ⟨part, hpart, requires⟩, fun ⟨other, hother, requires⟩ => ?_⟩
    rw [← name] at requires ⊢
    exact own part hpart schema declared other hother requires

end

/-! ## Runs -/

section

variable {document package : Value} {registered : List Definition}
  {returned : List (Definition × ClassId)} {succeeded : Bool} {s : BuildState} {node : Node}
  {id : ClassId}

/-- An own property of an extension is required exactly when the part that declares it says so. So
what any part requires is required in the class exactly when each part requires those of its own
properties that any part requires. -/
theorem Run.coversRequired_iff (distinct : document.distinctKeys)
    (run : Run ⟨.ofValue document, package⟩ registered returned succeeded s)
    (within : (Node.ofValue document).Within node) (isClass : isClassSchema node true = .ok true)
    (isExtension : node.has "allOf") (built : (s.graph.get id).built)
    (path : (s.graph.get id).path = node.path) :
    (∀ part ∈ node.inlineParts, ∀ schema ∈ part.declaredProperties,
      ∃ property ∈ (s.graph.get id).properties, property.name = schema.name ∧
        property.required = part.requires schema.name) ∧
    (s.graph.CoversRequired id node ↔ node.RequiresOwn) := by
  have reads := (run.settled distinct rfl id built).reads
  have content := reads.content_of_allOf distinct rfl within isClass isExtension path
  exact ⟨fun _ mem _ declared => content.required_eq mem declared, content.covers_iff⟩

/-- A hound is an animal with a breed, which the part that declares it requires. -/
def hound : Value := .object [
  ("definitions", .object [("Animal", .object [("type", .string "object")])]),
  ("allOf", .array [.object [("$ref", .string "#/definitions/Animal")],
    .object [("properties", .object [("breed", .object [("type", .string "string")])]),
      ("required", .array [.string "breed"])]])]

theorem Run.coversRequired_iff_hound : ∃ id s,
    buildRoot ⟨.ofValue hound, .string ""⟩ (.ofValue hound) (some "Hound") {} = .ok id s ∧
      (∃ property ∈ (s.graph.get 0).properties, property.name = "breed") ∧
      (Node.ofValue hound).RequiresOwn ∧ s.graph.CoversRequired 0 (.ofValue hound) := by
  have built : ((buildRoot ⟨.ofValue hound, .string ""⟩ (.ofValue hound) (some "Hound") >>=
      fun _ => get).run' {}).any fun s => (s.graph.get 0).built ∧ (s.graph.get 0).path = "" ∧
        ∃ property ∈ (s.graph.get 0).properties, property.name = "breed" := by decide +kernel
  obtain ⟨id, s, run, given⟩ := Build.exists_of_any built
  obtain ⟨built, path, breed⟩ := of_decide_eq_true given
  have covers := Run.coversRequired_iff (by decide +kernel) (.root run) .root (by decide +kernel)
    (by decide +kernel) built path
  have own : (Node.ofValue hound).RequiresOwn := by
    unfold Node.RequiresOwn
    decide +kernel
  exact ⟨id, s, run, breed, own, covers.2.2 own⟩

/-- A dog is an animal with a breed. That the breed is required stands beside `allOf`, and the breed
in a member of it. -/
def dog : Value := .object [
  ("definitions", .object [("Animal", .object [("type", .string "object")])]),
  ("allOf", .array [.object [("$ref", .string "#/definitions/Animal")],
    .object [("properties", .object [("breed", .object [("type", .string "string")])])]]),
  ("required", .array [.string "breed"])]

/-- What is required beside `allOf` is not required in the class. -/
theorem dog_not_coversRequired : ∃ id s,
    buildRoot ⟨.ofValue dog, .string ""⟩ (.ofValue dog) (some "Dog") {} = .ok id s ∧
      (s.graph.get 0).built ∧ (s.graph.get 0).path = (Node.ofValue dog).path ∧
      isClassSchema (.ofValue dog) true = .ok true ∧ (Node.ofValue dog).has "allOf" ∧
      ¬s.graph.CoversRequired 0 (.ofValue dog) := by
  have built : ((buildRoot ⟨.ofValue dog, .string ""⟩ (.ofValue dog) (some "Dog") >>=
      fun _ => get).run' {}).any fun s => (s.graph.get 0).built ∧ (s.graph.get 0).path = "" ∧
        ∃ property ∈ (s.graph.get 0).properties,
          property.name = "breed" ∧ property.required = false := by decide +kernel
  obtain ⟨id, s, run, given⟩ := Build.exists_of_any built
  obtain ⟨built, path, property, mem, name, required⟩ := of_decide_eq_true given
  refine ⟨id, s, run, built, path, by decide +kernel, by decide +kernel, fun covers => ?_⟩
  have given : (Node.ofValue dog).requires property.name := by
    rw [name]
    decide +kernel
  have itself : Node.ofValue dog ∈ (Node.ofValue dog).inlineParts :=
    List.mem_append_right _ (List.mem_singleton_self _)
  have isRequired := (covers property mem).2 ⟨_, itself, given⟩
  rw [required] at isRequired
  cases isRequired

end

end SchemaClasses
