import SchemaClasses.Proofs.Build.Step

/-!
# Where classes are declared

Each class stands in one place: at the top level, or in the class around it, which was created
before it.

## Main definitions

* `BuildState.Nesting`: each class is declared once, where it says.

## Main statements

* `Step.nesting`: every step keeps it so.
* `BuildState.Nesting.topLevel_mem`: around every class there is one at the top level.
-/

namespace SchemaClasses

/-- Each class is declared once: in the class around it, which was created before it, or at the top
level. -/
structure BuildState.Nesting (s : BuildState) : Prop where
  enclosing_lt : ∀ {id outer}, (s.graph.get id).enclosing = some outer → outer < id
  count_nested : ∀ outer id, (s.graph.get outer).nested.count id =
    if (s.graph.get id).enclosing = some outer then 1 else 0
  count_topLevel : ∀ id, s.topLevel.count id =
    if id < s.graph.size ∧ (s.graph.get id).enclosing = none then 1 else 0

namespace BuildState.Nesting

variable {s s' : BuildState}

theorem lt_size_of_enclosing {id outer : ClassId}
    (found : (s.graph.get id).enclosing = some outer) : id < s.graph.size := by
  refine Nat.lt_of_not_le fun le => ?_
  rw [ClassGraph.get_of_size_le le] at found
  cases found

theorem founded (h : s.Nesting) : s.graph.Founded (·.enclosing) where
  lt_size found := Nat.lt_trans (h.enclosing_lt found) (lt_size_of_enclosing found)
  wellFounded := Subrelation.wf (fun found => h.enclosing_lt found) Nat.lt_wfRel.wf

theorem of_empty (graph : s.graph.size = 0) (topLevel : s.topLevel = []) : s.Nesting := by
  have none (id : ClassId) : s.graph.get id = default :=
    ClassGraph.get_of_size_le (by omega)
  refine ⟨fun found => ?_, fun outer id => ?_, fun id => ?_⟩
  · rw [none] at found
    cases found
  · rw [none, none]
    rfl
  · simp [topLevel, graph]

theorem congr (h : s.Nesting) (graph : s'.graph = s.graph)
    (topLevel : s'.topLevel = s.topLevel) : s'.Nesting := by
  refine ⟨?_, ?_, ?_⟩
  · rw [graph]
    exact h.enclosing_lt
  · rw [graph]
    exact h.count_nested
  · rw [graph, topLevel]
    exact h.count_topLevel

theorem of_sameShape (h : s.Nesting) (same : SameShape s s') : s'.Nesting := by
  refine ⟨fun {id outer} found => ?_, fun outer id => ?_, fun id => ?_⟩
  · rw [(same.declaration id).enclosing] at found
    exact h.enclosing_lt found
  · rw [same.nested, (same.declaration id).enclosing]
    exact h.count_nested outer id
  · rw [same.topLevel, same.size, (same.declaration id).enclosing]
    exact h.count_topLevel id

/-- The new class stands in the list of the class around it, or at the top level, and nowhere
else. -/
theorem declare (h : s.Nesting) {model : ClassModel}
    (inside : ∀ outer ∈ model.enclosing, outer < s.graph.size) (nested : model.nested = []) :
    (s.declare model).Nesting := by
  have blank : (s.graph.get s.graph.size).enclosing = none := by
    rw [ClassGraph.get_of_size_le (Nat.le_refl _)]
    rfl
  refine ⟨fun {id outer} found => ?_, fun outer id => ?_, fun id => ?_⟩
  · by_cases eq : id = s.graph.size
    · subst eq
      rw [s.declare_get_size inside] at found
      exact inside outer found
    · rw [s.declare_get_of_ne inside eq] at found
      exact h.enclosing_lt found
  · by_cases eqOuter : outer = s.graph.size
    · subst eqOuter
      rw [s.declare_get_size inside, nested, List.count_nil]
      by_cases eq : id = s.graph.size
      · subst eq
        rw [s.declare_get_size inside, if_neg]
        exact fun found => Nat.lt_irrefl _ (inside _ found)
      · rw [s.declare_get_of_ne inside eq, if_neg]
        exact fun found => Nat.lt_asymm (h.enclosing_lt found) (lt_size_of_enclosing found)
    · have old := h.count_nested outer id
      rw [s.declare_get_of_ne inside eqOuter, List.count_append, old]
      by_cases eq : id = s.graph.size
      · subst eq
        rw [s.declare_get_size inside, blank]
        by_cases around : model.enclosing = some outer <;> simp [around]
      · rw [s.declare_get_of_ne inside eq]
        by_cases around : model.enclosing = some outer <;> simp [around, Ne.symm eq]
  · rw [s.declare_topLevel, List.count_append, h.count_topLevel id]
    by_cases eq : id = s.graph.size
    · subst eq
      rw [s.declare_get_size inside]
      cases model.enclosing <;> simp
    · rw [s.declare_get_of_ne inside eq]
      have le : id < s.graph.size + 1 ↔ id < s.graph.size :=
        ⟨fun lt => Nat.lt_of_le_of_ne (Nat.le_of_lt_succ lt) eq, Nat.lt_succ_of_lt⟩
      cases model.enclosing <;> simp [le, Ne.symm eq]

/-- The outermost class around a class stands at the top level. -/
theorem topLevel_outermost (h : s.Nesting) {id : ClassId} (inside : id < s.graph.size) :
    s.graph.topLevel id < s.graph.size ∧
      (s.graph.get (s.graph.topLevel id)).enclosing = none := by
  induction id using Nat.strongRecOn with
  | ind id ih =>
    rw [ClassGraph.topLevel_eq h.founded]
    cases around : (s.graph.get id).enclosing with
    | none => exact ⟨inside, around⟩
    | some outer =>
      have below := h.enclosing_lt around
      exact ih outer below (Nat.lt_trans below inside)

/-- The classes at the top level are those without a class around them. -/
theorem mem_topLevel_iff (h : s.Nesting) {id : ClassId} :
    id ∈ s.topLevel ↔ id < s.graph.size ∧ (s.graph.get id).enclosing = none := by
  rw [← List.count_pos_iff, h.count_topLevel]
  split
  · rename_i outermost
    exact iff_of_true Nat.one_pos outermost
  · rename_i inner
    exact iff_of_false (Nat.lt_irrefl 0) inner

theorem topLevel_mem (h : s.Nesting) {id : ClassId} (inside : id < s.graph.size) :
    s.graph.topLevel id ∈ s.topLevel :=
  h.mem_topLevel_iff.2 (h.topLevel_outermost inside)

theorem enclosing_of_mem_nested (h : s.Nesting) {inner outer : ClassId}
    (mem : inner ∈ (s.graph.get outer).nested) : (s.graph.get inner).enclosing = some outer := by
  have pos := List.count_pos_iff.2 mem
  rw [h.count_nested] at pos
  split at pos
  · assumption
  · exact absurd pos (Nat.lt_irrefl 0)

theorem mem_nested_iff (h : s.Nesting) {inner outer : ClassId} :
    inner ∈ (s.graph.get outer).nested ↔ (s.graph.get inner).enclosing = some outer := by
  refine ⟨h.enclosing_of_mem_nested, fun around => List.count_pos_iff.1 ?_⟩
  rw [h.count_nested, if_pos around]
  exact Nat.one_pos

/-- Declaring a class does not change what is around the other ones. -/
theorem enclosing_declare (h : s.Nesting) {model : ClassModel}
    (inside : ∀ outer ∈ model.enclosing, outer < s.graph.size) (nested : model.nested = [])
    {id : ClassId} (lt : id < s.graph.size) :
    (s.declare model).graph.enclosing id = s.graph.enclosing id := by
  induction id using Nat.strongRecOn with
  | ind id ih =>
    have same : ((s.declare model).graph.get id).enclosing = (s.graph.get id).enclosing := by
      rw [s.declare_get_of_ne inside (Nat.ne_of_lt lt)]
    rw [ClassGraph.enclosing_eq (h.declare inside nested).founded,
      ClassGraph.enclosing_eq h.founded, same]
    cases around : (s.graph.get id).enclosing with
    | none => rfl
    | some outer =>
      have below := h.enclosing_lt around
      rw [Option.elim_some, Option.elim_some, ih outer below (Nat.lt_trans below lt)]

end BuildState.Nesting

/-- Only declaring a class changes what stands where. -/
theorem Step.nesting {source : Source} {floor : ClassId} {s s' : BuildState}
    (step : Step source floor s s') (h : s.Nesting) : s'.Nesting := by
  cases step with
  | progress inProgress => exact h.of_sameShape (.progress s inProgress)
  | @declare node _ name referencing enclosing reserved _ _ _ _ _ inside =>
    obtain ⟨owners, eq⟩ := s.begin_eq reserved (blankClass source node name enclosing) referencing
    have taken : BuildState.Nesting { s with reserved } := h.congr rfl rfl
    have declared : BuildState.Nesting (BuildState.declare { s with reserved }
        (blankClass source node name enclosing)) := taken.declare inside rfl
    rw [eq]
    exact declared.congr rfl rfl
  | variant _ active => exact h.declare (by simpa [variantClass] using active.inside) rfl
  | fill _ active filling => exact h.of_sameShape (.fill active.inside filling)
  | enum active => exact h.of_sameShape (.enum active.inside)

end SchemaClasses
