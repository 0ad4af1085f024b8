import SchemaClasses.Proofs.Build.ReadingBuilders

/-!
# The order of alternatives

The classes of the alternatives of a choice are declared in its open base one after the other. The
schemas of their properties may have classes that are declared there, too, and come to stand between
them, but these are no alternatives. So the alternatives among the classes in an open base stand in
the order of the choice.

## Main definitions

* `Node.alternatives`: the alternatives of a choice.
* `ClassGraph.variants`: the alternatives among the classes in a class.

## Main statements

* `Steps.variantPaths`: building other classes adds no alternative to a class.
* `fillClass_variantPaths`: an open base has been filled with the alternatives of its choice.
-/

namespace SchemaClasses

def Node.alternatives (choice : Node) : List Node :=
  (choice.member? (if choice.has "oneOf" then "oneOf" else "anyOf")).elim [] (·.items)

/-- The alternatives among the classes that are declared in a class, in the order of their
declaration. -/
def ClassGraph.variants (graph : ClassGraph) (id : ClassId) : List ClassId :=
  (graph.get id).nested.filter fun inner => (graph.get inner).kind = .nestedVariant

def ClassGraph.variantPaths (graph : ClassGraph) (id : ClassId) : List String :=
  (graph.variants id).map fun variant => (graph.get variant).path

/-! ## Steps -/

section

variable {source : Source} {floor id : ClassId} {s s' : BuildState}

theorem BuildState.Nesting.lt_size_of_mem_nested (nesting : s.Nesting) {inner : ClassId}
    (mem : inner ∈ (s.graph.get id).nested) : inner < s.graph.size :=
  lt_size_of_enclosing (nesting.enclosing_of_mem_nested mem)

theorem ClassGraph.mem_variants {graph : ClassGraph} {variant : ClassId}
    (mem : variant ∈ graph.variants id) :
    variant ∈ (graph.get id).nested ∧ (graph.get variant).kind = .nestedVariant := by
  simpa [variants] using mem

theorem ClassGraph.variantPaths_eq_nil {graph : ClassGraph} (h : (graph.get id).nested = []) :
    graph.variantPaths id = [] := by
  simp [variantPaths, variants, h]

/-- No alternatives are added to a class while the shape of the state is kept. -/
theorem SameShape.variantPaths (same : SameShape s s')
    (kind : ∀ inner, (s'.graph.get inner).kind = .nestedVariant ↔
      (s.graph.get inner).kind = .nestedVariant) (id : ClassId) :
    s'.graph.variantPaths id = s.graph.variantPaths id := by
  have variants : s'.graph.variants id = s.graph.variants id := by
    simp only [ClassGraph.variants, same.nested, kind]
  rw [ClassGraph.variantPaths, variants]
  exact List.map_congr_left fun variant _ => (same.declaration variant).path

/-- Changing a class makes no alternative of one that is none. -/
theorem BuildState.variantPaths_change (s : BuildState) {other : ClassId} {f : ClassModel → ClassModel}
    (inside : other < s.graph.size)
    (declaration : (s.graph.get other).SameDeclaration (f (s.graph.get other)))
    (nested : (f (s.graph.get other)).nested = (s.graph.get other).nested)
    (kind : (f (s.graph.get other)).kind = .nestedVariant ↔
      (s.graph.get other).kind = .nestedVariant) (id : ClassId) :
    (s.change other f).graph.variantPaths id = s.graph.variantPaths id := by
  refine (SameShape.change inside declaration nested).variantPaths (fun inner => ?_) id
  by_cases eq : inner = other
  · rw [eq, s.change_get_self inside, kind]
  · rw [s.change_get_of_ne eq]

theorem Filling.variantPaths {other : ClassId} {f : ClassModel → ClassModel}
    (inside : other < s.graph.size)
    (filling : Filling source s.graph other (f (s.graph.get other))) (id : ClassId) :
    (s.change other f).graph.variantPaths id = s.graph.variantPaths id :=
  s.variantPaths_change inside filling.sameDeclaration.1 filling.sameDeclaration.2.1
    filling.sameVariant.1 id

/-- A class that is declared is one more alternative of the class around it, if it is one. -/
theorem BuildState.Declares.variantPaths {model : ClassModel} (h : s.Declares source s' model)
    (nesting : s.Nesting) (inside : id < s.graph.size) :
    s'.graph.variantPaths id = s.graph.variantPaths id ++
      if model.enclosing = some id ∧ model.kind = .nestedVariant then [model.path] else [] := by
  have new := h.get_size nesting
  have nested : (s'.graph.get id).nested = (s.graph.get id).nested ++
      if model.enclosing = some id then [s.graph.size] else [] := by
    rw [h.graph, s.declare_get_of_ne (h.inside nesting) (Nat.ne_of_lt inside)]
  have old {inner : ClassId} (mem : inner ∈ (s.graph.get id).nested) :=
    h.get_of_ne nesting (Nat.ne_of_lt (nesting.lt_size_of_mem_nested mem))
  have variants : (s.graph.get id).nested.filter
      (fun inner => (s'.graph.get inner).kind = .nestedVariant) = s.graph.variants id :=
    List.filter_congr fun inner mem => by rw [(old mem).2.kind]
  have paths : (s.graph.variants id).map (fun variant => (s'.graph.get variant).path) =
      s.graph.variantPaths id :=
    List.map_congr_left fun variant mem => (old (ClassGraph.mem_variants mem).1).1.path
  rw [ClassGraph.variantPaths, ClassGraph.variants, nested, List.filter_append, List.map_append,
    variants, paths]
  by_cases around : model.enclosing = some id <;> by_cases kind : model.kind = .nestedVariant <;>
    simp [around, kind, new]

/-- Building other classes adds no alternative to a class that has been declared before, and neither
does anything when it is complete. -/
theorem Step.variantPaths (step : Step source floor s s') (nesting : s.Nesting)
    (inside : id < s.graph.size) (apart : id < floor ∨ (s.graph.get id).built) :
    s'.graph.variantPaths id = s.graph.variantPaths id := by
  cases step with
  | progress inProgress => rfl
  | declare _ _ _ leads placed =>
    have declares : s.Declares source _ _ := .begin leads placed
    simpa [blankClass] using declares.variantPaths nesting inside
  | @variant choice alternative base name owned active =>
    have declares : s.Declares source
      (s.declare (variantClass (s.graph.get base).package name alternative.path base)) _ :=
      .variant active
    have ne : base ≠ id := by
      rintro rfl
      exact apart.elim (fun lt => absurd owned (Nat.not_le_of_lt lt)) active.pending
    simpa [variantClass, ne] using declares.variantPaths nesting inside
  | fill _ active filling => exact filling.variantPaths active.inside id
  | enum active =>
    exact s.variantPaths_change active.inside ⟨rfl, rfl, rfl, rfl⟩ rfl Iff.rfl id

/-- No alternatives are added to a class that is complete or not being built. -/
theorem Steps.variantPaths (steps : Steps source floor s s') (sound : s.Sound source)
    (inside : id < s.graph.size) (apart : id < floor ∨ (s.graph.get id).built) :
    s'.graph.variantPaths id = s.graph.variantPaths id := by
  induction steps with
  | refl => rfl
  | @tail t t' steps step ih =>
    have before : Steps source floor s t := steps
    have kept := before.kept
    refine (step.variantPaths (before.sound sound).nesting ?_ (apart.imp_right kept.built)).trans ih
    exact Nat.lt_of_lt_of_le inside kept.size_le

end

/-! ## Builders -/

section

variable {source : Source} {builders : Builders} {node choice alternative : Node}
  {s s' : BuildState} {owner : ClassId} {shared : List Property} {paths : List String}

variable (traced : builders.Traced source)
include traced

/-- One more alternative stands in its base, after those that have been declared before. -/
theorem buildVariant_variantPaths {schema : Node} (sound : s.Sound source)
    (isOpen : IsOpen choice owner shared paths s) (active : s.IsActive owner)
    (isAlternative : source.root.HasAlternative choice alternative)
    (fresh : alternative.path ∉ paths) (within : source.root.Within schema) {name : String}
    (named : IsClassName name)
    (run : buildVariant builders owner (shared.map (·.name)) alternative.path name schema s =
      .ok () s') :
    s'.graph.variantPaths owner = s.graph.variantPaths owner ++ [alternative.path] := by
  rw [buildVariant_apply] at run
  split at run
  · cases run
  · rename_i free
    have begun := begin_variant sound isOpen active isAlternative fresh named
      (isFreeIn_of_checkFreeIn free)
    have declared := begun.declares.variantPaths sound.nesting isOpen.inside
    obtain ⟨properties, t, hproperties, run⟩ := Build.bind_eq_ok_iff.1 run
    obtain ⟨steps, -, -⟩ :=
      (buildProperties_traces traced begun.sound within begun.active _).of_ok hproperties
    have kept := steps.variantPaths begun.sound begun.isOpen.inside (.inl begun.isOpen.inside)
    have inside := Nat.lt_of_lt_of_le begun.active.inside steps.kept.size_le
    cases run
    have filled := t.variantPaths_change (f := fun model =>
      { model with properties, built := true }) inside ⟨rfl, rfl, rfl, rfl⟩ rfl Iff.rfl owner
    refine filled.trans (kept.trans (declared.trans ?_))
    simp [variantClass]

/-- One alternative more is declared in the base, and it is the last one. -/
theorem buildAlternative_variantPaths (sound : s.Sound source)
    (isOpen : IsOpen choice owner shared paths s) (active : s.IsActive owner)
    (isAlternative : source.root.HasAlternative choice alternative)
    (fresh : alternative.path ∉ paths) {keyword : String}
    (run : buildAlternative source builders owner keyword (shared.map (·.name)) alternative s =
      .ok () s') :
    s'.graph.variantPaths owner = s.graph.variantPaths owner ++ [alternative.path] := by
  obtain ⟨schema, name, found, -, run⟩ := buildAlternative_eq_ok run
  exact buildVariant_variantPaths traced sound isOpen active isAlternative fresh
    (within_of_alternativeSchema isAlternative.within found)
    (isClassName_of_alternativeSchema found) run

/-- The alternatives of a choice come to stand in the order of the choice. The induction is on those
that are left. -/
theorem alternatives_variantPaths (sound : s.Sound source)
    (isOpen : IsOpen choice owner shared paths s) (active : s.IsActive owner) {rest : List Node}
    (areAlternatives : ∀ alternative ∈ rest, source.root.HasAlternative choice alternative)
    (distinct : (rest.map (·.path)).Nodup) (fresh : ∀ alternative ∈ rest, alternative.path ∉ paths)
    {keyword : String}
    (run : rest.forM (buildAlternative source builders owner keyword (shared.map (·.name))) s =
      .ok () s') :
    s'.graph.variantPaths owner = s.graph.variantPaths owner ++ rest.map (·.path) := by
  induction rest generalizing s paths with
  | nil =>
    cases run
    simp
  | cons alternative rest ih =>
    obtain ⟨apart, distinct⟩ := List.nodup_cons.1 distinct
    obtain ⟨isAlternative, areAlternatives⟩ := List.forall_mem_cons.1 areAlternatives
    obtain ⟨freshFirst, freshRest⟩ := List.forall_mem_cons.1 fresh
    obtain ⟨_, s₁, first, run⟩ := Build.bind_eq_ok_iff.1 run
    obtain ⟨steps, finished, isOpen₁⟩ := (buildAlternative_traces traced sound isOpen active
      isAlternative freshFirst keyword).of_ok first
    have done : Done source owner s s₁ := ⟨steps.kept, steps, finished⟩
    have active₁ := done.active_of_pending active isOpen₁.pending
    have others := ih (steps.sound sound) isOpen₁ active₁ areAlternatives distinct
      (by grind) run
    rw [others, buildAlternative_variantPaths traced sound isOpen active isAlternative freshFirst
      first, List.append_assoc]
    rfl

section

variable (h : builders.Reading source)
include h

/-- A choice leaves its alternatives in its class, in their order. -/
theorem buildAlternatives_variantPaths (sound : s.Sound source) (within : source.root.Within node)
    (isClass : isClassSchema node true = .ok true)
    (isChoice : node.has "oneOf" ∨ node.has "anyOf") (active : s.IsActive owner)
    (blank : (s.graph.get owner).Blank) (noEnums : (s.graph.get owner).enums = [])
    (path : (s.graph.get owner).path = node.path) (empty : s.graph.variantPaths owner = [])
    (run : buildAlternatives source builders owner node s = .ok () s') :
    s'.graph.variantPaths owner = node.alternatives.map (·.path) := by
  unfold buildAlternatives at run
  split at run
  · cases run
  · rename_i notBoth
    obtain ⟨keyword, hkeyword, isKeyword, has, -⟩ := exists_choiceKeyword isChoice notBoth
    unfold Node.alternatives
    simp only [hkeyword] at run ⊢
    cases found : node.member? keyword with
    | none => simp [Node.has, Option.map_eq_none_iff.1 found] at has
    | some alternatives =>
      simp only [found] at run
      split at run
      · cases run
      · obtain ⟨_, _, hopen, run⟩ := Build.bind_eq_ok_iff.1 run
        cases hopen
        obtain ⟨shared, s₂, hshared, run⟩ := Build.bind_eq_ok_iff.1 run
        have begun := begin_alternatives traced h sound within active blank noEnums path hshared
        obtain ⟨_, _, hshare, run⟩ := Build.bind_eq_ok_iff.1 run
        cases hshare
        change (alternatives.items.forM (buildAlternative source builders owner keyword
          (shared.map (·.name))) : Build PUnit) _ = _ at run
        rw [alternatives_variantPaths traced begun.sound begun.isOpen begun.active
          (fun _ mem => .of within isClass isKeyword found mem) alternatives.nodup_items_path
          (fun _ _ => List.not_mem_nil) run]
        -- The classes of the shared properties are no alternatives.
        have filling : Filling source s.graph owner
          { s.graph.get owner with kind := .openBase } := .openBase blank
        have inside : owner < s.graph.size := active.inside
        have opened := filling.variantPaths
          (f := fun model => { model with kind := .openBase }) inside owner
        have step : Step source owner s
          (s.change owner fun model => { model with kind := .openBase }) :=
          .fill (Nat.le_refl _) active filling
        have sound₁ := step.sound sound
        have active₁ := active.change (f := fun model => { model with kind := .openBase }) rfl
        obtain ⟨steps, -, -⟩ :=
          (buildProperties_traces traced sound₁ within active₁ []).of_ok hshared
        have kept := steps.variantPaths sound₁ active₁.inside (.inl active₁.inside)
        have given := s₂.variantPaths_change (f := fun model => { model with properties := shared })
          (Nat.lt_of_lt_of_le active₁.inside steps.kept.size_le) ⟨rfl, rfl, rfl, rfl⟩ rfl Iff.rfl
          owner
        rw [given, kept, opened, empty]
        rfl

/-- A class that is filled from a choice has its alternatives, in their order. -/
theorem fillClass_variantPaths (sound : s.Sound source) (within : source.root.Within node)
    (isClass : isClassSchema node true = .ok true) (isChoice : node.isChoice)
    (active : s.IsActive owner) (blank : (s.graph.get owner).Blank)
    (noEnums : (s.graph.get owner).enums = []) (path : (s.graph.get owner).path = node.path)
    (empty : s.graph.variantPaths owner = [])
    (run : fillClass source builders owner node s = .ok () s') :
    s'.graph.variantPaths owner = node.alternatives.map (·.path) := by
  obtain ⟨noAllOf, choice⟩ : node.has "allOf" = false ∧ (node.has "oneOf" ∨ node.has "anyOf") := by
    simpa [Node.isChoice] using isChoice
  have noBase : node.member? "allOf" = none := by
    simpa [Node.has, Node.member?] using noAllOf
  unfold fillClass at run
  simp only [noBase] at run
  rw [if_pos (by simpa using choice)] at run
  exact buildAlternatives_variantPaths traced h sound within isClass choice active blank noEnums
    path empty run

end

end

end SchemaClasses
