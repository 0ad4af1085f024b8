import SchemaClasses.Generation
import SchemaClasses.Proofs.Build.Run

/-!
# The classes of a request

What is rendered for a request are the classes of a run in which every call has succeeded. A schema
has one class in it, but for an alternative that a reference has led to before the class of the
choice declared it: this alternative has a class of its own besides the one in the open base.

## Main definitions

* `Request.registered`: the members that a request registers.
* `ClassGraph.BuiltApart`: an alternative has a class besides the one in its open base.

## Main statements

* `Run.of_buildRequested`: a request makes a run.
* `requested_unique_iff`: schemas have one class each unless an alternative is built apart.
* `BuildState.Sound.reference_of_builtApart`: a reference leads to an alternative that is built
  apart.
-/

namespace SchemaClasses

variable {source : Source} {s s' : BuildState}

/-- The members that a request registers: those of its container that have classes, in their order,
or the whole document alone. -/
def Request.registered (root : Node) : Request → Except Failure (List Definition)
  | .root name? => .ok [⟨name?.getD "", root, true⟩]
  | .members pointer include? => (·.filter (·.hasClass)) <$> definitions root pointer include?

/-- Building registered members one after the other goes on with a run. -/
theorem Run.build_all {registered entries : List Definition}
    {returned : List (Definition × ClassId)} {succeeded : Bool} {ids : List ClassId}
    (run : Run source registered returned succeeded s) (known : entries ⊆ registered)
    (build : entries.mapM (buildDefinition source) s = .ok ids s') :
    ids.length = entries.length ∧
      Run source registered (returned ++ entries.zip ids) succeeded s' := by
  induction entries generalizing returned s ids with
  | nil =>
    rw [List.mapM_nil] at build
    cases build
    exact ⟨rfl, by simpa⟩
  | cons entry rest ih =>
    rw [List.mapM_cons] at build
    obtain ⟨id, s₁, first, build⟩ := Build.bind_eq_ok_iff.1 build
    obtain ⟨others, s₂, build, last⟩ := Build.bind_eq_ok_iff.1 build
    cases last
    obtain ⟨mem, known⟩ := List.cons_subset.1 known
    obtain ⟨length, run⟩ := ih (run.build mem first) known build
    exact ⟨by simp [length], by simpa using run⟩

/-- Building what a request asks for is a run, which returns a class for each selected member that
is registered. -/
theorem Run.of_buildRequested {request : Request} {ids : List ClassId}
    (build : buildRequested source request {} = .ok ids s) :
    ∃ registered, request.registered source.root = .ok registered ∧
      ids.length = (registered.filter (·.selected)).length ∧
      Run source registered ((registered.filter (·.selected)).zip ids) true s := by
  cases request with
  | root name? =>
    obtain ⟨id, s₁, build, last⟩ := Build.bind_eq_ok_iff.1 build
    cases last
    exact ⟨_, rfl, rfl, .root build⟩
  | members pointer include? =>
    obtain ⟨entries, s₁, found, build⟩ := Build.bind_eq_ok_iff.1 build
    obtain ⟨hentries, rfl⟩ := Build.ofExcept_eq_ok_iff.1 found
    obtain ⟨registered, s₂, register, build⟩ := Build.bind_eq_ok_iff.1 build
    have run : Run source registered [] true s₂ := .register hentries register
    obtain ⟨length, run⟩ := run.build_all (fun _ mem => (List.mem_filter.1 mem).1) build
    refine ⟨registered, ?_, length, run⟩
    rw [Request.registered, hentries, registerDefinitions_eq_filter register]
    rfl

/-- The classes of a request are those of a run in which every call has succeeded. -/
theorem Run.of_requested {document : Node} {settings : Settings} {request : Request}
    {graph : ClassGraph} {classes : List ClassId}
    (h : requestedClasses document settings request = .ok (graph, classes)) :
    ∃ registered returned s,
      Run ⟨document, settings.basePackage⟩ registered returned true s ∧ s.graph = graph := by
  unfold requestedClasses at h
  split at h
  · rename_i build
    cases h
    obtain ⟨registered, -, -, run⟩ := Run.of_buildRequested build
    exact ⟨registered, _, _, run, rfl⟩
  · cases h

/-- A choice has an open base, and one of its alternatives has a class besides the one in there. -/
structure ClassGraph.BuiltApart (root : Node) (graph : ClassGraph) (choice alternative : Node) :
    Prop where
  isAlternative : root.HasAlternative choice alternative
  openBase : ∃ id, (graph.get id).kind = .openBase ∧ (graph.get id).path = choice.path
  besides : ∃ id, id < graph.size ∧ (graph.get id).kind ≠ .nestedVariant ∧
    (graph.get id).path = alternative.path

/-- Two classes for a schema are one besides the open base of a choice, and one in it. -/
theorem BuildState.Sound.builtApart (h : s.Sound source) {a b : ClassId} (before : a < b)
    (inside : b < s.graph.size) (same : (s.graph.get a).path = (s.graph.get b).path) :
    ∃ choice alternative, s.graph.BuiltApart source.root choice alternative := by
  obtain ⟨kindA, kindB⟩ := h.paths.unique before inside same
  obtain ⟨base, choice, alternative, found, basePath, isAlternative, path⟩ :=
    h.paths.alternative kindB
  have baseKind : (s.graph.get base).kind = .openBase := by
    rcases h.composition.base found with variant | extension
    · exact variant.baseKind
    · exact absurd kindB (ClassKind.ne_of_plain_or_data extension.kind).2
  exact ⟨choice, alternative, isAlternative, ⟨base, baseKind, basePath⟩,
    ⟨a, Nat.lt_trans before inside, kindA, same.trans path⟩⟩

/-- A class of an alternative besides the open base comes from a reference that ends at the
alternative. -/
theorem BuildState.Sound.reference_of_builtApart (h : s.Sound source) {choice alternative : Node}
    (apart : s.graph.BuiltApart source.root choice alternative) :
    ∃ reference resolved, source.root.Within reference ∧ reference.has "$ref" ∧
      follow source.root reference = .ok resolved ∧ resolved.target = alternative := by
  obtain ⟨id, inside, kind, path⟩ := apart.besides
  obtain ⟨node, reached, -, nodePath⟩ := h.paths.reached inside kind
  obtain ⟨rfl, reference⟩ := reached.of_alternative h.distinct h.top apart.isAlternative
    (nodePath.symm.trans path)
  exact reference

/-- In a complete open base all alternatives have been declared, and so a class besides it makes two
for the alternative. -/
theorem ClassGraph.BuiltApart.not_unique (h : s.Sound source)
    (built : ∀ id, id < s.graph.size → (s.graph.get id).built) {choice alternative : Node}
    (apart : s.graph.BuiltApart source.root choice alternative) :
    ∃ a b, a < s.graph.size ∧ b < s.graph.size ∧
      (s.graph.get a).path = (s.graph.get b).path ∧ a ≠ b := by
  obtain ⟨base, isOpen, basePath⟩ := apart.openBase
  obtain ⟨a, insideA, kindA, pathA⟩ := apart.besides
  have insideBase : base < s.graph.size := by
    refine Nat.lt_of_not_le fun le => ?_
    rw [ClassGraph.get_of_size_le le] at isOpen
    cases isOpen
  obtain ⟨b, kindB, -, pathB⟩ :=
    h.paths.variants (built base insideBase) isOpen apart.isAlternative basePath
  refine ⟨a, b, insideA, ClassGraph.lt_size_of_variant kindB, pathA.trans pathB.symm, ?_⟩
  rintro rfl
  exact kindA kindB

section

variable {document : Value} {settings : Settings} {request : Request} {graph : ClassGraph}
  {classes : List ClassId}

/-- Schemas have one class each in the classes of a request exactly when no alternative of a choice
that has an open base has a class besides the one in there. -/
theorem requested_unique_iff (distinct : document.distinctKeys)
    (h : requestedClasses (.ofValue document) settings request = .ok (graph, classes)) :
    (∀ a b, a < graph.size → b < graph.size →
      (graph.get a).path = (graph.get b).path → a = b) ↔
    ¬∃ choice alternative, graph.BuiltApart (.ofValue document) choice alternative := by
  obtain ⟨registered, returned, s, run, rfl⟩ := Run.of_requested h
  have invariant := run.invariant distinct rfl
  constructor
  · rintro unique ⟨choice, alternative, apart⟩
    obtain ⟨a, b, insideA, insideB, same, ne⟩ :=
      apart.not_unique invariant.sound (invariant.built rfl)
    exact ne (unique a b insideA insideB same)
  · intro noneApart a b insideA insideB same
    rcases Nat.lt_trichotomy a b with lt | eq | gt
    · exact absurd (invariant.sound.builtApart lt insideB same) noneApart
    · exact eq
    · exact absurd (invariant.sound.builtApart gt insideA same.symm) noneApart

/-- Schemas have one class each if no reference of the document ends at an alternative. -/
theorem requested_unique_of_no_reference (distinct : document.distinctKeys)
    (h : requestedClasses (.ofValue document) settings request = .ok (graph, classes))
    (noReference : ∀ choice reference resolved, (Node.ofValue document).Within reference →
      reference.has "$ref" → follow (.ofValue document) reference = .ok resolved →
      ¬(Node.ofValue document).HasAlternative choice resolved.target)
    {a b : ClassId} (insideA : a < graph.size) (insideB : b < graph.size)
    (same : (graph.get a).path = (graph.get b).path) : a = b := by
  obtain ⟨registered, returned, s, run, rfl⟩ := Run.of_requested h
  have sound := (run.invariant distinct rfl).sound
  have noneApart {choice alternative : Node} :
      ¬s.graph.BuiltApart (.ofValue document) choice alternative := by
    intro apart
    obtain ⟨reference, resolved, within, isReference, found, rfl⟩ :=
      sound.reference_of_builtApart apart
    exact noReference choice reference resolved within isReference found apart.isAlternative
  rcases Nat.lt_trichotomy a b with lt | eq | gt
  · obtain ⟨choice, alternative, apart⟩ := sound.builtApart lt insideB same
    exact absurd apart noneApart
  · exact eq
  · obtain ⟨choice, alternative, apart⟩ := sound.builtApart gt insideA same.symm
    exact absurd apart noneApart

end

/-- A document in which a member refers to an alternative of the member after it. -/
def earlyReference : Value := .object [("definitions", .object [
  ("A", .object [("type", .string "object"), ("properties", .object [
    ("x", .object [("$ref", .string "#/definitions/B/oneOf/0")])])]),
  ("B", .object [("oneOf", .array [.object [("title", .string "V"), ("type", .string "object"),
    ("properties", .object [("a", .object [("type", .string "string")])])]])])])]

theorem requestedClasses_earlyReference : ∃ graph classes,
    requestedClasses (.ofValue earlyReference) {} (.members "#/definitions" none) =
      .ok (graph, classes) ∧ 3 < graph.size ∧ (graph.get 1).path = (graph.get 3).path := by
  have built : (requestedClasses (.ofValue earlyReference) {}
      (.members "#/definitions" none)).toOption.any fun result =>
        decide (3 < result.1.size ∧ (result.1.get 1).path = (result.1.get 3).path) := by
    decide +kernel
  obtain ⟨result, run, twice⟩ := Except.exists_of_any built
  exact ⟨result.1, result.2, run, of_decide_eq_true twice⟩

theorem requested_unique_iff_earlyReference : ∃ graph classes,
    requestedClasses (.ofValue earlyReference) {} (.members "#/definitions" none) =
      .ok (graph, classes) ∧ 3 < graph.size ∧
      ((∀ a b, a < graph.size → b < graph.size →
        (graph.get a).path = (graph.get b).path → a = b) ↔
      ¬∃ choice alternative,
        graph.BuiltApart (.ofValue earlyReference) choice alternative) := by
  obtain ⟨graph, classes, run, inside, -⟩ := requestedClasses_earlyReference
  exact ⟨graph, classes, run, inside, requested_unique_iff (by decide +kernel) run⟩

/-- Two classes of a request that is rendered have the same schema: the class that the reference of
the first member leads to, and the alternative in the class of the second one. -/
theorem earlyReference_builtTwice : ∃ graph classes files,
    requestedClasses (.ofValue earlyReference) {} (.members "#/definitions" none) =
      .ok (graph, classes) ∧
    render (.ofValue earlyReference) {} .kotlin (.members "#/definitions" none) = .ok files ∧
    ∃ a b, a < graph.size ∧ b < graph.size ∧ (graph.get a).path = (graph.get b).path ∧ a ≠ b := by
  obtain ⟨graph, classes, run, inside, same⟩ := requestedClasses_earlyReference
  have rendered : (render (.ofValue earlyReference) {} .kotlin
      (.members "#/definitions" none)).toOption.any fun _ => true := by decide +kernel
  obtain ⟨files, rendered, -⟩ := Except.exists_of_any rendered
  have first : 1 < graph.size := Nat.lt_trans (by decide) inside
  exact ⟨graph, classes, files, run, rendered, 1, 3, first, inside, same, by decide⟩

end SchemaClasses
