import SchemaClasses.Proofs.Build.Declaration

/-!
# The order of creation

Classes are built depth first. What is declared while a class is being built stands at the top
level, beside that class, in it or in something that was declared after it, and no class is complete
before everything in it is.

## Main definitions

* `BuildState.Beside`: where the classes stand that have been declared since a class was.
* `BuildState.Ordered`: the order in which classes are declared and become complete.

## Main statements

* `Steps.beside`, `Steps.enums`: what is declared while a class is being built.
* `Step.ordered`: every step keeps the order.
-/

namespace SchemaClasses

variable {source : Source} {floor id : ClassId} {s s' : BuildState}

/-! ## While a class is being built -/

/-- The classes that were declared with a class or since then stand at the top level, in one of
them, or where that class does. -/
def BuildState.Beside (s : BuildState) (id : ClassId) : Prop :=
  ∀ other, id ≤ other → ∀ outer, outer < id → (s.graph.get other).enclosing = some outer →
    (s.graph.get id).enclosing = some outer

/-- The class being built is not one before a class that is not complete. -/
theorem BuildState.IsActive.le {active : ClassId} (h : s.IsActive active)
    (inside : id < s.graph.size) (pending : ¬(s.graph.get id).built) : id ≤ active :=
  Nat.le_of_not_lt fun lt => pending (h.later id lt inside)

theorem BuildState.Declares.beside {model : ClassModel} (h : s.Declares source s' model) :
    s'.Beside s.graph.size := by
  intro other le outer lt around
  have inside := BuildState.Nesting.lt_size_of_enclosing around
  rw [h.size] at inside
  rwa [Nat.le_antisymm (Nat.le_of_lt_succ inside) le] at around

/-- As long as a class is not complete, what is declared stays beside it. -/
theorem Step.beside (step : Step source floor s s') (nesting : s.Nesting)
    (inside : id < s.graph.size) (pending : ¬(s.graph.get id).built) (h : s.Beside id) :
    s'.Beside id := by
  intro other le outer lt around
  rcases step.shape with same | ⟨model, declares⟩
  · rw [(same.declaration other).enclosing] at around
    rw [(same.declaration id).enclosing]
    exact h other le outer lt around
  · rw [(declares.get_of_ne nesting (Nat.ne_of_lt inside)).1.enclosing]
    by_cases eq : other = s.graph.size
    · subst eq
      rw [declares.get_size nesting] at around
      obtain ⟨active, isActive, rfl | beside⟩ := declares.around outer around
      · exact absurd lt (Nat.not_lt.2 (isActive.le inside pending))
      · exact h active (isActive.le inside pending) outer lt beside
    · rw [(declares.get_of_ne nesting eq).1.enclosing] at around
      exact h other le outer lt around

/-- While a class is being built, what is declared stands beside it or in something declared since
it was. -/
theorem Steps.beside (steps : Steps source floor s s') (sound : s.Sound source)
    (inside : id < s.graph.size) (pending : ¬(s'.graph.get id).built) (h : s.Beside id) :
    s'.Beside id := by
  induction steps with
  | refl => exact h
  | @tail t t' steps step ih =>
    have before : Steps source floor s t := steps
    have pending' : ¬(t.graph.get id).built := fun built => pending (step.kept.built built)
    have inside' := Nat.lt_of_lt_of_le inside before.kept.size_le
    exact step.beside (before.sound sound).nesting inside' pending' (ih pending')

/-- No enums are declared in the classes before one that is being built. -/
theorem Step.enums (step : Step source floor s s') (nesting : s.Nesting)
    (inside : id < s.graph.size) (pending : ¬(s.graph.get id).built) {other : ClassId}
    (lt : other < id) : (s'.graph.get other).enums = (s.graph.get other).enums := by
  have before := Nat.lt_trans lt inside
  cases step with
  | progress inProgress => rfl
  | declare _ _ _ leads placed =>
    exact (BuildState.Declares.begin leads placed).enums_of_lt nesting before
  | variant _ active =>
    exact (@BuildState.Declares.variant source _ _ _ _ active).enums_of_lt nesting before
  | @fill filled f _ active filling =>
    have ne : other ≠ filled := Nat.ne_of_lt (Nat.lt_of_lt_of_le lt (active.le inside pending))
    rw [s.change_get_of_ne ne]
  | @enum owner definition active =>
    have ne : other ≠ owner := Nat.ne_of_lt (Nat.lt_of_lt_of_le lt (active.le inside pending))
    rw [s.change_get_of_ne ne]

/-- While a class is being built, no enum is declared in a class from before it. -/
theorem Steps.enums (steps : Steps source floor s s') (sound : s.Sound source)
    (inside : id < s.graph.size) (pending : ¬(s'.graph.get id).built) {other : ClassId}
    (lt : other < id) : (s'.graph.get other).enums = (s.graph.get other).enums := by
  induction steps with
  | refl => rfl
  | @tail t t' steps step ih =>
    have before : Steps source floor s t := steps
    have pending' : ¬(t.graph.get id).built := fun built => pending (step.kept.built built)
    have inside' := Nat.lt_of_lt_of_le inside before.kept.size_le
    exact (step.enums (before.sound sound).nesting inside' pending' lt).trans (ih pending')

/-! ## Bases -/

/-- What is declared later stands after the bases of a class. -/
theorem ClassGraph.BaseFirst.step {base : ClassId} (h : s.graph.BaseFirst id base)
    (step : Step source floor s s') (sound : s.Sound source) (inside : base < s.graph.size)
    (filled : ¬(s.graph.get base).Blank) : s'.graph.BaseFirst id base := by
  rcases h with around | first
  · exact .inl ((step.kept.declaration inside).enclosing.trans around)
  · refine .inr fun inner around ancestor mem => ?_
    rw [step.lineage sound inside filled] at mem
    rcases Nat.lt_or_ge inner s.graph.size with old | new
    · rw [(step.kept.declaration old).enclosing] at around
      exact first inner around ancestor mem
    · exact Nat.lt_of_lt_of_le
        (ClassGraph.lt_size_of_mem_lineage sound.composition.founded inside mem) new

/-- A class that was there before anything was declared in another one comes first in it. -/
theorem Kept.baseFirst (kept : Kept s.graph.size s s') (sound : s.Sound source)
    (sound' : s'.Sound source) {base : ClassId} (inside : base < s.graph.size)
    (empty : (s.graph.get base).enclosing = some id ∨
      ∀ inner, (s.graph.get inner).enclosing ≠ some id) : s'.graph.BaseFirst id base := by
  rcases empty with around | empty
  · exact .inl ((kept.declaration inside).enclosing.trans around)
  · refine .inr fun inner around ancestor mem => ?_
    rw [kept.lineage sound sound' (Nat.le_refl _) inside] at mem
    refine Nat.lt_of_lt_of_le
      (ClassGraph.lt_size_of_mem_lineage sound.composition.founded inside mem)
      (Nat.le_of_not_lt fun old => ?_)
    rw [(kept.declaration old).enclosing] at around
    exact empty inner around

/-! ## The order -/

/-- The order in which classes are declared and become complete. -/
structure BuildState.Ordered (s : BuildState) : Prop where
  /-- A class becomes complete after everything in it. -/
  complete : ∀ {outer id}, (s.graph.get outer).built → (s.graph.get id).enclosing = some outer →
    (s.graph.get id).built
  /-- Of the classes between an outermost class and one in it, only those in it are being built. -/
  pending : ∀ {id other}, id < s.graph.size → ¬(s.graph.get other).built →
    s.graph.topLevel id < other → other < id → s.graph.topLevel other = s.graph.topLevel id
  nested : ∀ id, (s.graph.get id).nested.Pairwise (· < ·)
  base : ∀ {id base}, (s.graph.get id).base = some base → s.graph.BaseFirst id base

theorem BuildState.Ordered.of_empty (h : s.graph.size = 0) : s.Ordered := by
  have none (id : ClassId) : s.graph.get id = default := ClassGraph.get_of_size_le (by omega)
  refine ⟨fun {outer id} built _ => ?_, fun {id other} inside => ?_, fun id => ?_,
    fun {id base} found => ?_⟩
  · rw [none] at built
    cases built
  · omega
  · rw [none]
    exact .nil
  · rw [none] at found
    cases found

theorem BuildState.Declares.topLevel {model : ClassModel} (h : s.Declares source s' model)
    (nesting : s.Nesting) (inside : id < s.graph.size) :
    s'.graph.topLevel id = s.graph.topLevel id := by
  unfold ClassGraph.topLevel
  rw [h.graph, nesting.enclosing_declare (h.inside nesting) h.nested inside]

/-- No class is declared in a complete one, and a class becomes complete after those in it. -/
theorem Step.ordered_complete (step : Step source floor s s') (nesting : s.Nesting)
    (h : s.Ordered) {outer : ClassId} (built : (s'.graph.get outer).built)
    (around : (s'.graph.get id).enclosing = some outer) : (s'.graph.get id).built := by
  have inside := ClassGraph.lt_size_of_built built
  have old (around' : (s.graph.get id).enclosing = some outer) : (s'.graph.get id).built := by
    rcases step.completes nesting built with complete | active
    · exact step.kept.built (h.complete complete around')
    · exact step.kept.built (active.later id (nesting.enclosing_lt around')
        (BuildState.Nesting.lt_size_of_enclosing around'))
  rcases step.shape with same | ⟨model, declares⟩
  · rw [(same.declaration id).enclosing] at around
    exact old around
  · by_cases eq : id = s.graph.size
    · subst eq
      rw [declares.get_size nesting] at around
      obtain ⟨active, isActive, beside⟩ := declares.around outer around
      have ne := Nat.ne_of_lt (declares.inside nesting outer around)
      rw [(declares.get_of_ne nesting ne).2.built] at built
      refine absurd ?_ isActive.pending
      rcases beside with rfl | beside
      · exact built
      · exact h.complete built beside
    · rw [(declares.get_of_ne nesting eq).1.enclosing] at around
      exact old around

/-- A class that is being built and was declared between another class and the outermost one around
that stands in that outermost one, too. -/
theorem Step.ordered_pending (step : Step source floor s s') (nesting : s.Nesting)
    (h : s.Ordered) {other : ClassId} (inside : id < s'.graph.size)
    (pending : ¬(s'.graph.get other).built) (lt : s'.graph.topLevel id < other)
    (lt' : other < id) : s'.graph.topLevel other = s'.graph.topLevel id := by
  have pendingBefore : ¬(s.graph.get other).built := fun built => pending (step.kept.built built)
  rcases step.shape with same | ⟨model, declares⟩
  · have topLevel (id : ClassId) : s'.graph.topLevel id = s.graph.topLevel id := by
      unfold ClassGraph.topLevel
      rw [ClassGraph.enclosing_congr same.size fun id => (same.declaration id).enclosing]
    rw [topLevel] at lt
    rw [topLevel, topLevel]
    rw [same.size] at inside
    exact h.pending inside pendingBefore lt lt'
  · rw [declares.size] at inside
    have insideOther : other < s.graph.size := Nat.lt_of_lt_of_le lt' (Nat.le_of_lt_succ inside)
    rw [declares.topLevel nesting insideOther]
    by_cases eq : id = s.graph.size
    · subst eq
      have founded := (step.nesting nesting).founded
      rw [ClassGraph.topLevel_eq founded, declares.get_size nesting] at lt ⊢
      cases around : model.enclosing with
      | none =>
        rw [around] at lt
        exact absurd lt (Nat.lt_asymm lt')
      | some outer =>
        obtain ⟨active, isActive, beside⟩ := declares.around outer around
        have top : s.graph.topLevel outer = s.graph.topLevel active := by
          rcases beside with rfl | beside
          · rfl
          · rw [ClassGraph.topLevel_eq nesting.founded active, beside, Option.elim_some]
        rw [around, Option.elim_some,
          declares.topLevel nesting (declares.inside nesting outer around), top] at lt
        rw [Option.elim_some,
          declares.topLevel nesting (declares.inside nesting outer around), top]
        rcases Nat.eq_or_lt_of_le (isActive.le insideOther pendingBefore) with rfl | below
        · rfl
        · exact h.pending isActive.inside pendingBefore lt below
    · have insideId : id < s.graph.size := Nat.lt_of_le_of_ne (Nat.le_of_lt_succ inside) eq
      rw [declares.topLevel nesting insideId] at lt ⊢
      exact h.pending insideId pendingBefore lt lt'

/-- The classes in a class stand there in the order of their numbers. -/
theorem Step.ordered_nested (step : Step source floor s s') (nesting : s.Nesting)
    (h : s.Ordered) (id : ClassId) : (s'.graph.get id).nested.Pairwise (· < ·) := by
  rcases step.shape with same | ⟨model, declares⟩
  · rw [same.nested]
    exact h.nested id
  · by_cases eq : id = s.graph.size
    · subst eq
      rw [declares.get_size nesting, declares.nested]
      exact .nil
    · rw [declares.graph, s.declare_get_of_ne (declares.inside nesting) eq]
      refine List.pairwise_append.2 ⟨h.nested id, ?_, fun inner mem new mem' => ?_⟩
      · split
        · exact List.pairwise_singleton _ _
        · exact .nil
      · split at mem'
        · obtain rfl := List.mem_singleton.1 mem'
          exact BuildState.Nesting.lt_size_of_enclosing (nesting.enclosing_of_mem_nested mem)
        · cases mem'

/-- A base was declared before the classes in the class that extends it, or stands in that class. -/
theorem Step.ordered_base (step : Step source floor s s') (sound : s.Sound source)
    (h : s.Ordered) {base : ClassId} (found : (s'.graph.get id).base = some base) :
    s'.graph.BaseFirst id base := by
  rcases step.base sound.nesting found with old | ⟨rfl, around⟩ | ⟨_, complete, order⟩
  · have inside := sound.composition.founded.lt_size old
    refine (h.base old).step step sound inside fun blank => ?_
    exact sound.composition.unreached_of_blank blank id old
  · refine .inr fun inner around' => ?_
    -- Nothing can have been declared in the new class.
    have lt := BuildState.Nesting.lt_size_of_enclosing around'
    have gt := (step.nesting sound.nesting).enclosing_lt around'
    exact absurd (Nat.lt_of_lt_of_le lt step.size_le_succ) (Nat.not_lt.2 (Nat.succ_le_of_lt gt))
  · exact order.step step sound (ClassGraph.lt_size_of_built complete)
      fun blank => absurd complete (by simp [blank.built])

/-- Every step keeps the order. -/
theorem Step.ordered (step : Step source floor s s') (sound : s.Sound source) (h : s.Ordered) :
    s'.Ordered where
  complete built around := step.ordered_complete sound.nesting h built around
  pending inside pending lt lt' := step.ordered_pending sound.nesting h inside pending lt lt'
  nested id := step.ordered_nested sound.nesting h id
  base found := step.ordered_base sound h found

/-- Steps keep the order. -/
theorem Steps.ordered (steps : Steps source floor s s') (sound : s.Sound source)
    (h : s.Ordered) : s'.Ordered := by
  induction steps with
  | refl => exact h
  | @tail t t' steps step ih =>
    have before : Steps source floor s t := steps
    exact step.ordered (before.sound sound) ih

end SchemaClasses
