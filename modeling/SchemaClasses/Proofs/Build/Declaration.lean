import SchemaClasses.Proofs.Build.Sound

/-!
# What a step changes

A step declares at most one class, where the class being built is, and it changes only that class
otherwise. All classes are put in the package of the run.

## Main definitions

* `BuildState.Declares`: a step declares a class.
* `BuildState.Packaged`: the package of the classes.

## Main statements

* `Step.shape`: a step declares a class where the class being built is, or it declares none.
* `Step.completes`: only the class being built becomes complete.
* `Step.base`: how a class gets its base.
* `Steps.packaged`: steps put classes in the package of the run.
-/

namespace SchemaClasses

variable {source : Source} {floor id : ClassId} {s s' : BuildState}

/-! ## What a step declares -/

/-- A step declares a class, which has not been filled and stands at the top level, beside the class
being built or in it. An alternative is declared in its base. -/
structure BuildState.Declares (source : Source) (s s' : BuildState) (model : ClassModel) :
    Prop where
  graph : s'.graph = (s.declare model).graph
  nested : model.nested = []
  enums : model.enums = []
  pending : ¬model.built
  package : model.package = source.package ∨
    ∃ other, other < s.graph.size ∧ model.package = (s.graph.get other).package
  around : ∀ outer ∈ model.enclosing, ∃ active, s.IsActive active ∧
    (outer = active ∨ (s.graph.get active).enclosing = some outer)
  base : ∀ base ∈ model.base, model.enclosing = some base

namespace BuildState.Declares

variable {model : ClassModel}

/-- A class is begun that is placed by the class which refers to it. -/
theorem begin {node : Node} {fallback name : String} {referencing enclosing : Option ClassId}
    {reserved : ReservedNames} (leads : s.LeadsTo node.path referencing)
    (placed : s.placement node fallback referencing = .ok (name, enclosing, reserved)) :
    s.Declares source (s.begin reserved (blankClass source node name enclosing) referencing)
      (blankClass source node name enclosing) := by
  refine ⟨BuildState.begin_graph _ _ _ _, rfl, rfl, by simp [blankClass], .inl rfl,
    fun outer around => ?_, fun _ found => by cases found⟩
  cases BuildState.placed_of_placement placed with
  | pinned => cases around
  | topLevel => cases around
  | @nested referrer scope _ refers beside _ =>
    cases around
    exact ⟨referrer, leads.active referrer refers, beside⟩

/-- An alternative is declared in its base. -/
theorem variant {name path : String} {base : ClassId} (active : s.IsActive base) :
    s.Declares source (s.declare (variantClass (s.graph.get base).package name path base))
      (variantClass (s.graph.get base).package name path base) := by
  refine ⟨rfl, rfl, rfl, by simp [variantClass], .inr ⟨base, active.inside, rfl⟩,
    fun outer around => ?_, fun _ found => found⟩
  cases around
  exact ⟨base, active, .inl rfl⟩

theorem inside (h : s.Declares source s' model) (nesting : s.Nesting) :
    ∀ outer ∈ model.enclosing, outer < s.graph.size := by
  intro outer around
  obtain ⟨active, isActive, rfl | beside⟩ := h.around outer around
  · exact isActive.inside
  · exact Nat.lt_trans (nesting.enclosing_lt beside) isActive.inside

theorem size (h : s.Declares source s' model) : s'.graph.size = s.graph.size + 1 := by
  rw [h.graph, BuildState.declare_size]

theorem get_size (h : s.Declares source s' model) (nesting : s.Nesting) :
    s'.graph.get s.graph.size = model := by
  rw [h.graph, s.declare_get_size (h.inside nesting)]

theorem get_of_ne (h : s.Declares source s' model) (nesting : s.Nesting) (ne : id ≠ s.graph.size) :
    (s.graph.get id).SameDeclaration (s'.graph.get id) ∧
      (s.graph.get id).SameContent (s'.graph.get id) := by
  rw [h.graph]
  exact s.declare_same (h.inside nesting) ne

/-- The class that is declared is the one being built then. -/
theorem active (h : s.Declares source s' model) (nesting : s.Nesting) : s'.IsActive s.graph.size where
  inside := by
    rw [h.size]
    exact Nat.lt_succ_self _
  pending := by
    rw [h.get_size nesting]
    exact h.pending
  later other lt inside := by
    rw [h.size] at inside
    exact absurd lt (Nat.not_lt.2 (Nat.le_of_lt_succ inside))

theorem enums_of_lt (h : s.Declares source s' model) (nesting : s.Nesting) (lt : id < s.graph.size) :
    (s'.graph.get id).enums = (s.graph.get id).enums := by
  rw [h.graph, s.declare_get_of_ne (h.inside nesting) (Nat.ne_of_lt lt)]

end BuildState.Declares

/-- A step declares a class, or it changes no place of a class. -/
theorem Step.shape (step : Step source floor s s') :
    SameShape s s' ∨ ∃ model, s.Declares source s' model := by
  cases step with
  | progress inProgress => exact .inl (.progress s inProgress)
  | declare _ _ _ leads placed => exact .inr ⟨_, .begin leads placed⟩
  | variant _ active => exact .inr ⟨_, .variant active⟩
  | fill _ active filling => exact .inl (.fill active.inside filling)
  | enum active => exact .inl (.enum active.inside)

theorem Step.size_le_succ (step : Step source floor s s') : s'.graph.size ≤ s.graph.size + 1 := by
  rcases step.shape with same | ⟨model, declares⟩
  · exact Nat.le_succ_of_le (Nat.le_of_eq same.size)
  · exact Nat.le_of_eq declares.size

/-- Only the class being built becomes complete. -/
theorem Step.completes (step : Step source floor s s') (nesting : s.Nesting)
    (built : (s'.graph.get id).built) : (s.graph.get id).built ∨ s.IsActive id := by
  have declares {model : ClassModel} (h : s.Declares source s' model) : (s.graph.get id).built := by
    by_cases eq : id = s.graph.size
    · subst eq
      rw [h.get_size nesting] at built
      exact absurd built h.pending
    · rwa [(h.get_of_ne nesting eq).2.built] at built
  cases step with
  | progress inProgress => exact .inl built
  | declare _ _ _ leads placed => exact .inl (declares (.begin leads placed))
  | variant _ active => exact .inl (declares (.variant active))
  | @fill other f _ active _ =>
    by_cases eq : id = other
    · exact .inr (eq ▸ active)
    · rw [s.change_get_of_ne eq] at built
      exact .inl built
  | enum active =>
    obtain ⟨enums, eq⟩ := s.change_enums_get _ active.inside id
    rw [eq] at built
    exact .inl built

/-! ## Bases -/

theorem Filling.base_eq {model : ClassModel} (h : Filling source s.graph id model)
    (filled : ¬(s.graph.get id).Blank) : model.base = (s.graph.get id).base := by
  cases h with
  | extend blank => exact absurd blank filled
  | _ => rfl

/-- A class that has been filled keeps its base. -/
theorem Step.base_eq (step : Step source floor s s') (nesting : s.Nesting)
    (inside : id < s.graph.size) (filled : ¬(s.graph.get id).Blank) :
    (s'.graph.get id).base = (s.graph.get id).base := by
  have declares {model : ClassModel} (h : s.Declares source s' model) :
      (s'.graph.get id).base = (s.graph.get id).base :=
    (h.get_of_ne nesting (Nat.ne_of_lt inside)).2.base
  cases step with
  | progress inProgress => rfl
  | declare _ _ _ leads placed => exact declares (.begin leads placed)
  | variant _ active => exact declares (.variant active)
  | @fill other f _ active filling =>
    by_cases eq : id = other
    · subst eq
      rw [s.change_get_self inside]
      exact filling.base_eq filled
    · rw [s.change_get_of_ne eq]
  | enum active =>
    obtain ⟨enums, eq⟩ := s.change_enums_get _ active.inside id
    rw [eq]

/-- A class that has been filled keeps its lineage: so have its bases. -/
theorem Step.lineage (step : Step source floor s s') (sound : s.Sound source)
    (inside : id < s.graph.size) (filled : ¬(s.graph.get id).Blank) :
    s'.graph.lineage id = s.graph.lineage id := by
  refine ClassGraph.lineage_congr sound.composition.founded
    (step.composition sound.composition).founded step.kept.size_le
    (fun other => other < s.graph.size ∧ ¬(s.graph.get other).Blank) (fun closed => closed.1)
    (fun closed => step.base_eq sound.nesting closed.1 closed.2)
    (fun {other base} _ found => ⟨sound.composition.founded.lt_size found, fun blank => ?_⟩)
    ⟨inside, filled⟩
  exact sound.composition.unreached_of_blank blank other found

/-- A class gets its base when it is declared in it, or when it becomes its extension. -/
theorem Step.base (step : Step source floor s s') (nesting : s.Nesting) {base : ClassId}
    (found : (s'.graph.get id).base = some base) :
    (s.graph.get id).base = some base ∨
      (id = s.graph.size ∧ (s'.graph.get id).enclosing = some base) ∨
      (s.IsActive id ∧ (s.graph.get base).built ∧ s.graph.BaseFirst id base) := by
  have declares {model : ClassModel} (h : s.Declares source s' model) :
      (s.graph.get id).base = some base ∨
        (id = s.graph.size ∧ (s'.graph.get id).enclosing = some base) := by
    by_cases eq : id = s.graph.size
    · subst eq
      rw [h.get_size nesting] at found ⊢
      exact .inr ⟨rfl, h.base base found⟩
    · rw [(h.get_of_ne nesting eq).2.base] at found
      exact .inl found
  cases step with
  | progress inProgress => exact .inl found
  | declare _ _ _ leads placed => exact (declares (.begin leads placed)).imp_right .inl
  | variant _ active => exact (declares (.variant active)).imp_right .inl
  | @fill other f _ active filling =>
    by_cases eq : id = other
    · subst eq
      rw [s.change_get_self active.inside] at found
      generalize f (s.graph.get id) = model at filling found
      cases filling with
      | extend _ _ _ _ complete _ order =>
        obtain rfl := Option.some.inj found
        exact .inr (.inr ⟨active, complete, order⟩)
      | _ => exact .inl found
    · rw [s.change_get_of_ne eq] at found
      exact .inl found
  | enum active =>
    obtain ⟨enums, eq⟩ := s.change_enums_get _ active.inside id
    rw [eq] at found
    exact .inl found

/-! ## Packages -/

def BuildState.Packaged (source : Source) (s : BuildState) : Prop :=
  ∀ id, id < s.graph.size → (s.graph.get id).package = source.package

/-- A new class gets the package of the run, and no step changes it. -/
theorem Step.packaged (step : Step source floor s s') (nesting : s.Nesting)
    (h : s.Packaged source) : s'.Packaged source := by
  intro id inside
  rcases Nat.lt_or_ge id s.graph.size with old | new
  · exact (step.kept.declaration old).package.trans (h id old)
  · rcases step.shape with same | ⟨model, declares⟩
    · exact absurd (same.size ▸ inside) (Nat.not_lt.2 new)
    · rw [declares.size] at inside
      obtain rfl := Nat.le_antisymm (Nat.le_of_lt_succ inside) new
      rw [declares.get_size nesting]
      rcases declares.package with own | ⟨other, lt, same⟩
      · exact own
      · exact same.trans (h other lt)

/-- Steps put classes in the package of the run. -/
theorem Steps.packaged (steps : Steps source floor s s') (sound : s.Sound source)
    (h : s.Packaged source) : s'.Packaged source := by
  induction steps with
  | refl => exact h
  | @tail t t' steps step ih =>
    have before : Steps source floor s t := steps
    exact step.packaged (before.sound sound).nesting ih

end SchemaClasses
