import Mathlib.Logic.Relation
import SchemaClasses.Proofs.Build.Order

/-!
# Dependence between top-level classes

A top-level class depends on another one when a class in it extends the other one or a class in that.
What is extended has been completed before, but the top-level class around it may still be being
built. Where it has been completed, too, the dependences lead from classes to ones completed before
them, and so they never come back to where they began.

## Main definitions

* `ClassGraph.DependsOn`: dependence between top-level classes.
* `ClassGraph.DependsLate`: dependence on something in a class that was begun before.
* `BuildState.Layered`: all other dependences are on complete classes, and have no cycles.

## Main statements

* `Step.layered`: every step keeps the dependences without cycles.
* `BuildState.Layered.exists_late`: every cycle holds a late dependence.
-/

namespace SchemaClasses

namespace ClassGraph

/-- A class in the first top-level class extends one in the second. -/
def DependsOn (graph : ClassGraph) (x y : ClassId) : Prop :=
  x ≠ y ∧ ∃ id base, (graph.get id).base = some base ∧ graph.topLevel id = x ∧
    graph.topLevel base = y

/-- A class in the first top-level class extends one nested in the second, which was begun before. -/
def DependsLate (graph : ClassGraph) (x y : ClassId) : Prop :=
  y < x ∧ ∃ id base, (graph.get id).base = some base ∧ graph.topLevel id = x ∧
    graph.topLevel base = y ∧ base ≠ y

/-- A class in the first top-level class extends the second, or one in it if it was begun later. -/
def DependsEarly (graph : ClassGraph) (x y : ClassId) : Prop :=
  x ≠ y ∧ ∃ id base, (graph.get id).base = some base ∧ graph.topLevel id = x ∧
    graph.topLevel base = y ∧ (base = y ∨ x < y)

theorem DependsOn.early_or_late {graph : ClassGraph} {x y : ClassId} (h : graph.DependsOn x y) :
    graph.DependsEarly x y ∨ graph.DependsLate x y := by
  obtain ⟨ne, id, base, found, top, top'⟩ := h
  by_cases self : base = y
  · exact .inl ⟨ne, id, base, found, top, top', .inl self⟩
  · rcases Nat.lt_or_ge x y with lt | ge
    · exact .inl ⟨ne, id, base, found, top, top', .inr lt⟩
    · exact .inr ⟨Nat.lt_of_le_of_ne ge ne.symm, id, base, found, top, top', self⟩

end ClassGraph

/-- Apart from late ones, dependences are on complete classes and have no cycles. -/
structure BuildState.Layered (s : BuildState) : Prop where
  built : ∀ {x y}, s.graph.DependsEarly x y → (s.graph.get y).built
  acyclic : ∀ x, ¬Relation.TransGen s.graph.DependsEarly x x

variable {source : Source} {floor id : ClassId} {s s' : BuildState}

theorem BuildState.Layered.of_empty (h : s.graph.size = 0) : s.Layered := by
  have none (x y : ClassId) : ¬s.graph.DependsEarly x y := by
    rintro ⟨-, id, base, found, -⟩
    rw [ClassGraph.get_of_size_le (h ▸ Nat.zero_le id)] at found
    cases found
  refine ⟨fun depends => absurd depends (none _ _), fun x cycle => ?_⟩
  obtain ⟨y, -, depends⟩ := Relation.TransGen.tail'_iff.1 cycle
  exact none y x depends

/-- A class is complete if the outermost class around it is. -/
theorem BuildState.Ordered.built_of_topLevel (h : s.Ordered) (nesting : s.Nesting)
    (built : (s.graph.get (s.graph.topLevel id)).built) : (s.graph.get id).built := by
  induction id using Nat.strongRecOn with
  | ind id ih =>
    rw [ClassGraph.topLevel_eq nesting.founded] at built
    cases around : (s.graph.get id).enclosing with
    | none =>
      rw [around] at built
      exact built
    | some outer =>
      rw [around] at built
      exact h.complete (ih outer (nesting.enclosing_lt around) built) around

/-- The class around a complete class that was begun after the one being built is complete. -/
theorem BuildState.IsActive.topLevel_built (active : s.IsActive id) (ordered : s.Ordered)
    {y : ClassId} (lt : s.graph.topLevel id < y) (inside : y < s.graph.size)
    (top : s.graph.topLevel y = y) : (s.graph.get y).built := by
  by_contra pending
  rcases Nat.lt_trichotomy y id with before | rfl | after
  · have same := ordered.pending active.inside pending lt before
    exact Nat.ne_of_lt lt (same.symm.trans top)
  · exact Nat.ne_of_lt lt top
  · exact pending (active.later y after inside)

/-- Classes stay in the top-level classes that they are in. -/
theorem Kept.topLevel (kept : Kept floor s s') (nesting : s.Nesting) (nesting' : s'.Nesting)
    (inside : id < s.graph.size) : s'.graph.topLevel id = s.graph.topLevel id := by
  induction id using Nat.strongRecOn with
  | ind id ih =>
    rw [ClassGraph.topLevel_eq nesting.founded, ClassGraph.topLevel_eq nesting'.founded,
      (kept.declaration inside).enclosing]
    cases around : (s.graph.get id).enclosing with
    | none => rfl
    | some outer =>
      have lt := nesting.enclosing_lt around
      exact ih outer lt (Nat.lt_trans lt inside)

/-- A new dependence leads from a class that is being built to one that is complete. -/
theorem Step.dependsEarly (step : Step source floor s s') (sound : s.Sound source)
    (ordered : s.Ordered) {x y : ClassId} (h : s'.graph.DependsEarly x y) :
    s.graph.DependsEarly x y ∨ ¬(s.graph.get x).built ∧ (s.graph.get y).built := by
  obtain ⟨ne, id, base, found, top, top', early⟩ := h
  have nesting' := step.nesting sound.nesting
  have same {id : ClassId} (inside : id < s.graph.size) :
      s'.graph.topLevel id = s.graph.topLevel id :=
    step.kept.topLevel sound.nesting nesting' inside
  rcases step.base sound.nesting found with old | ⟨-, around⟩ | ⟨active, complete, -⟩
  · have insideBase := sound.composition.founded.lt_size old
    have inside := ClassGraph.lt_size_of_base old
    rw [same inside] at top
    rw [same insideBase] at top'
    exact .inl ⟨ne, id, base, old, top, top', early⟩
  · rw [ClassGraph.topLevel_eq nesting'.founded, around] at top
    exact absurd (top.symm.trans top') ne
  · have insideBase := ClassGraph.lt_size_of_built complete
    rw [same active.inside] at top
    rw [same insideBase] at top'
    subst top top'
    obtain ⟨inside, outermost⟩ := sound.nesting.topLevel_outermost insideBase
    refine .inr ⟨fun built => active.pending (ordered.built_of_topLevel sound.nesting built), ?_⟩
    rcases early with self | lt
    · exact self ▸ complete
    · refine active.topLevel_built ordered lt inside ?_
      rw [ClassGraph.topLevel_eq sound.nesting.founded, outermost]
      rfl

/-- Every step keeps the dependences without cycles: a new one leads away from a class that no
dependence leads to. -/
theorem Step.layered (step : Step source floor s s') (sound : s.Sound source) (ordered : s.Ordered)
    (h : s.Layered) : s'.Layered := by
  have built {x y : ClassId} (depends : s'.graph.DependsEarly x y) : (s.graph.get y).built :=
    (step.dependsEarly sound ordered depends).elim h.built And.right
  have old {x y : ClassId} (complete : (s.graph.get x).built)
      (depends : s'.graph.DependsEarly x y) : s.graph.DependsEarly x y :=
    (step.dependsEarly sound ordered depends).resolve_right fun new => new.1 complete
  refine ⟨fun depends => step.kept.built (built depends), fun x cycle => ?_⟩
  obtain ⟨last, -, into⟩ := Relation.TransGen.tail'_iff.1 cycle
  have onCycle {z : ClassId} (path : Relation.TransGen s'.graph.DependsEarly x z) :
      Relation.TransGen s.graph.DependsEarly x z := by
    induction path with
    | single depends => exact .single (old (built into) depends)
    | tail path depends ih =>
      obtain ⟨_, -, before⟩ := Relation.TransGen.tail'_iff.1 path
      exact ih.tail (old (built before) depends)
  exact h.acyclic x (onCycle cycle)

/-- Steps keep the dependences without cycles. -/
theorem Steps.layered (steps : Steps source floor s s') (sound : s.Sound source)
    (ordered : s.Ordered) (h : s.Layered) : s'.Layered := by
  induction steps with
  | refl => exact h
  | @tail t t' steps step ih =>
    have before : Steps source floor s t := steps
    exact step.layered (before.sound sound) (before.ordered sound ordered) ih

/-- Every cycle of dependences holds a late one. -/
theorem BuildState.Layered.exists_late (h : s.Layered) {R : ClassId → ClassId → Prop}
    (dependence : ∀ {a b}, R a b → s.graph.DependsOn a b) {x : ClassId}
    (cycle : Relation.TransGen R x x) : ∃ a b, Relation.ReflTransGen R x a ∧ R a b ∧
      s.graph.DependsLate a b ∧ Relation.ReflTransGen R b x := by
  by_contra none
  have early {a b : ClassId} (before : Relation.ReflTransGen R x a) (edge : R a b)
      (back : Relation.ReflTransGen R b x) : s.graph.DependsEarly a b :=
    (dependence edge).early_or_late.resolve_right
      fun late => none ⟨a, b, before, edge, late, back⟩
  have onCycle {z : ClassId} (path : Relation.TransGen R x z)
      (back : Relation.ReflTransGen R z x) : Relation.TransGen s.graph.DependsEarly x z := by
    induction path with
    | single edge => exact .single (early .refl edge back)
    | tail path edge ih => exact (ih (back.head edge)).tail (early path.to_reflTransGen edge back)
  exact h.acyclic x (onCycle cycle .refl)

end SchemaClasses
