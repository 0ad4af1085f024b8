import Mathlib.Data.List.Nodup
import SchemaClasses.Proofs.Build.Nesting

/-!
# Trees of nested classes

A class is nested in all classes around it, and the tree of a class holds everything that is nested
in it, each class once. The classes of a state belong to the trees of those at the top level.

## Main statements

* `BuildState.Nesting.tree_eq`: the tree of a class is made from those of the classes in it.
* `BuildState.Nesting.mem_classes_tree_iff`, `BuildState.Nesting.nodup_classes_tree`: the classes of a
  tree.
* `BuildState.Nesting.mem_topLevel_tree_iff`: the classes of the tree of a class at the top level.
-/

namespace SchemaClasses

namespace ClassTree

theorem classesOfAll_eq (trees : List ClassTree) : classesOfAll trees = trees.flatMap classes := by
  induction trees with
  | nil => rfl
  | cons tree rest ih => rw [classesOfAll, ih, List.flatMap_cons]

end ClassTree

namespace BuildState.Nesting

variable {s : BuildState} {id outer inner other : ClassId}

/-! ## The classes around a class -/

/-- A class is around another one when that one is nested in it, or in a class nested in it. -/
theorem mem_enclosing_iff (h : s.Nesting) : outer ∈ s.graph.enclosing id ↔
    ∃ inner, (s.graph.get inner).enclosing = some outer ∧
      (inner = id ∨ inner ∈ s.graph.enclosing id) := by
  induction id using Nat.strongRecOn with
  | ind id ih =>
    rw [ClassGraph.enclosing_eq h.founded]
    cases around : (s.graph.get id).enclosing with
    | none =>
      simp only [Option.elim_none, List.not_mem_nil, or_false, exists_eq_right, false_iff]
      rw [around]
      simp
    | some next =>
      rw [Option.elim_some, List.mem_cons, ih next (h.enclosing_lt around)]
      constructor
      · rintro (rfl | ⟨inner, nested, rfl | mem⟩)
        · exact ⟨id, around, .inl rfl⟩
        · exact ⟨inner, nested, .inr List.mem_cons_self⟩
        · exact ⟨inner, nested, .inr (List.mem_cons_of_mem _ mem)⟩
      · rintro ⟨inner, nested, rfl | mem⟩
        · exact .inl (Option.some.inj (nested.symm.trans around))
        · rcases List.mem_cons.1 mem with rfl | mem
          · exact .inr ⟨inner, nested, .inl rfl⟩
          · exact .inr ⟨inner, nested, .inr mem⟩

/-- Classes are declared after those around them. -/
theorem lt_of_mem_enclosing (h : s.Nesting) (mem : outer ∈ s.graph.enclosing id) : outer < id := by
  induction id using Nat.strongRecOn with
  | ind id ih =>
    rw [ClassGraph.enclosing_eq h.founded] at mem
    cases around : (s.graph.get id).enclosing with
    | none =>
      rw [around] at mem
      cases mem
    | some next =>
      rw [around] at mem
      have lt := h.enclosing_lt around
      rcases List.mem_cons.1 mem with rfl | mem
      · exact lt
      · exact Nat.lt_trans (ih next lt mem) lt

theorem lt_size_of_mem_enclosing (h : s.Nesting) (mem : outer ∈ s.graph.enclosing id) :
    id < s.graph.size := by
  refine Nat.lt_of_not_le fun le => ?_
  rw [ClassGraph.enclosing_eq h.founded, ClassGraph.get_of_size_le le] at mem
  cases mem

/-- Of two classes around a class or that class itself, one is around the other. -/
theorem enclosing_total (h : s.Nesting) {first second : ClassId}
    (memFirst : first = id ∨ first ∈ s.graph.enclosing id)
    (memSecond : second = id ∨ second ∈ s.graph.enclosing id) :
    first = second ∨ first ∈ s.graph.enclosing second ∨ second ∈ s.graph.enclosing first := by
  induction id using Nat.strongRecOn with
  | ind id ih =>
    rcases memFirst with rfl | memFirst <;> rcases memSecond with rfl | memSecond
    · exact .inl rfl
    · exact .inr (.inr memSecond)
    · exact .inr (.inl memFirst)
    · rw [ClassGraph.enclosing_eq h.founded] at memFirst memSecond
      cases around : (s.graph.get id).enclosing with
      | none =>
        rw [around] at memFirst
        cases memFirst
      | some next =>
        rw [around] at memFirst memSecond
        exact ih next (h.enclosing_lt around) (List.mem_cons.1 memFirst) (List.mem_cons.1 memSecond)

/-- A class has the same outermost class as those around it. -/
theorem topLevel_of_mem_enclosing (h : s.Nesting) (mem : outer ∈ s.graph.enclosing id) :
    s.graph.topLevel id = s.graph.topLevel outer := by
  induction id using Nat.strongRecOn with
  | ind id ih =>
    rw [ClassGraph.enclosing_eq h.founded] at mem
    rw [ClassGraph.topLevel_eq h.founded id]
    cases around : (s.graph.get id).enclosing with
    | none =>
      rw [around] at mem
      cases mem
    | some next =>
      rw [around] at mem
      rcases List.mem_cons.1 mem with rfl | mem
      · rfl
      · exact ih next (h.enclosing_lt around) mem

/-! ## Trees -/

/-- The depth of a tree is cut off after as many steps as there are classes, by which nothing is
lost: each class has been declared after the one around it. -/
theorem treeFrom_eq (h : s.Nesting) {fuel : Nat} (le : s.graph.size ≤ fuel + id) (extra : Nat) :
    s.graph.treeFrom fuel id = s.graph.treeFrom (fuel + extra) id := by
  induction fuel generalizing id with
  | zero =>
    have none : (s.graph.get id).nested = [] := by
      rw [ClassGraph.get_of_size_le (by simpa using le)]
      rfl
    cases extra with
    | zero => rfl
    | succ extra => rw [Nat.zero_add, ClassGraph.treeFrom, ClassGraph.treeFrom, none, List.map_nil]
  | succ fuel ih =>
    rw [Nat.add_right_comm, ClassGraph.treeFrom, ClassGraph.treeFrom]
    refine congrArg _ (List.map_congr_left fun inner mem => ih ?_)
    have lt := h.enclosing_lt (h.enclosing_of_mem_nested mem)
    exact Nat.le_trans le (by rw [Nat.add_right_comm]; exact Nat.add_le_add_left lt fuel)

/-- The tree of a class is made from those of the classes in it. -/
theorem tree_eq (h : s.Nesting) (id : ClassId) :
    s.graph.tree id = .node id ((s.graph.get id).nested.map s.graph.tree) := by
  have more := h.treeFrom_eq (Nat.le_add_right s.graph.size id) 1
  unfold ClassGraph.tree
  rw [more, ClassGraph.treeFrom]

theorem classes_tree_eq (h : s.Nesting) (id : ClassId) : (s.graph.tree id).classes =
    id :: (s.graph.get id).nested.flatMap fun inner => (s.graph.tree inner).classes := by
  rw [h.tree_eq, ClassTree.classes, ClassTree.classesOfAll_eq, List.flatMap_map]

/-- What holds of a class if it holds of all classes in it, holds of all classes. -/
theorem induction_nested (h : s.Nesting) {P : ClassId → Prop}
    (step : ∀ id, (∀ inner ∈ (s.graph.get id).nested, P inner) → P id) (id : ClassId) : P id := by
  have below (n : Nat) : ∀ id, s.graph.size ≤ n + id → P id := by
    induction n with
    | zero =>
      intro id le
      refine step id fun inner mem => ?_
      rw [ClassGraph.get_of_size_le (by simpa using le)] at mem
      cases mem
    | succ n ih =>
      intro id le
      refine step id fun inner mem => ih inner ?_
      have lt := h.enclosing_lt (h.enclosing_of_mem_nested mem)
      exact Nat.le_trans le (by rw [Nat.add_right_comm]; exact Nat.add_le_add_left lt n)
  exact below s.graph.size id (Nat.le_add_right _ _)

/-- The tree of a class holds that class and all classes that it is around. -/
theorem mem_classes_tree_iff (h : s.Nesting) :
    other ∈ (s.graph.tree id).classes ↔ other = id ∨ id ∈ s.graph.enclosing other := by
  refine h.induction_nested (P := fun id => other ∈ (s.graph.tree id).classes ↔
    other = id ∨ id ∈ s.graph.enclosing other) (fun id ih => ?_) id
  rw [h.classes_tree_eq, List.mem_cons, List.mem_flatMap, h.mem_enclosing_iff]
  refine or_congr_right ⟨?_, ?_⟩
  · rintro ⟨inner, nested, mem⟩
    refine ⟨inner, h.enclosing_of_mem_nested nested, ?_⟩
    exact ((ih inner nested).1 mem).imp_left Eq.symm
  · rintro ⟨inner, around, mem⟩
    have nested := h.mem_nested_iff.2 around
    exact ⟨inner, nested, (ih inner nested).2 (mem.imp_left Eq.symm)⟩

/-- The tree of a class holds each class once. -/
theorem nodup_classes_tree (h : s.Nesting) (id : ClassId) : (s.graph.tree id).classes.Nodup := by
  refine h.induction_nested (P := fun id => (s.graph.tree id).classes.Nodup) (fun id ih => ?_) id
  rw [h.classes_tree_eq, List.nodup_cons, List.nodup_flatMap]
  refine ⟨fun mem => ?_, ih, ?_⟩
  · obtain ⟨inner, nested, mem⟩ := List.mem_flatMap.1 mem
    have lt := h.enclosing_lt (h.enclosing_of_mem_nested nested)
    rcases h.mem_classes_tree_iff.1 mem with rfl | mem
    · exact Nat.lt_irrefl _ lt
    · exact Nat.lt_asymm lt (h.lt_of_mem_enclosing mem)
  · have once : (s.graph.get id).nested.Nodup := by
      refine List.nodup_iff_count_le_one.2 fun inner => ?_
      rw [h.count_nested]
      split
      · exact Nat.le_refl 1
      · exact Nat.zero_le 1
    refine once.imp_of_mem fun {first second} memFirst memSecond ne => ?_
    -- A class in both trees would have two classes around it that are declared in the same one.
    intro other inFirst inSecond
    have aroundFirst := h.enclosing_of_mem_nested memFirst
    have aroundSecond := h.enclosing_of_mem_nested memSecond
    have beside {a b : ClassId} (around : (s.graph.get b).enclosing = some id)
        (around' : (s.graph.get a).enclosing = some id) (mem : a ∈ s.graph.enclosing b) : False := by
      rw [ClassGraph.enclosing_eq h.founded, around] at mem
      have lt := h.enclosing_lt around'
      rcases List.mem_cons.1 mem with rfl | mem
      · exact Nat.lt_irrefl _ lt
      · exact Nat.lt_asymm lt (h.lt_of_mem_enclosing mem)
    rcases h.enclosing_total ((h.mem_classes_tree_iff.1 inFirst).imp_left Eq.symm)
      ((h.mem_classes_tree_iff.1 inSecond).imp_left Eq.symm) with eq | mem | mem
    · exact ne eq
    · exact beside aroundSecond aroundFirst mem
    · exact beside aroundFirst aroundSecond mem

/-- The classes in the tree of a class at the top level are those whose outermost class it is. -/
theorem mem_topLevel_tree_iff (h : s.Nesting) {top : ClassId} (mem : top ∈ s.topLevel) :
    other ∈ (s.graph.tree top).classes ↔ other < s.graph.size ∧ s.graph.topLevel other = top := by
  obtain ⟨inside, outermost⟩ := h.mem_topLevel_iff.1 mem
  have self : s.graph.topLevel top = top := by
    rw [ClassGraph.topLevel_eq h.founded, outermost]
    rfl
  rw [h.mem_classes_tree_iff]
  constructor
  · rintro (rfl | around)
    · exact ⟨inside, self⟩
    · exact ⟨h.lt_size_of_mem_enclosing around, (h.topLevel_of_mem_enclosing around).trans self⟩
  · rintro ⟨-, rfl⟩
    exact (s.graph.topLevel_mem_enclosing other).imp_left Eq.symm

end BuildState.Nesting

end SchemaClasses
