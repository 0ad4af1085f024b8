import Mathlib.Data.Finset.Card
import SchemaClasses.Emit.Python
import SchemaClasses.Proofs.Build.Order
import SchemaClasses.Proofs.Build.Trees

/-!
# The order of hoisted classes

A Python class that stands in another one and has a superclass is declared after the outermost class
around it, and after the hoisted classes that it needs: those around it, its superclass and those
around that. Such an order always exists. A superclass was declared before all classes in the one
that extends it, and so every hoisted class that is needed has a lower rank: the latest class among
it and its bases is an earlier one, or it is the same one and there are fewer bases.

## Main definitions

* `Python.Requires`: what a class needs before it.
* `Python.IsHoistingOrder`: the orders in which the hoisted classes can be declared.
* `Python.rank`: the rank of a class.

## Main statements

* `Python.rank_lt`: what a hoisted class needs has a lower rank.
* `Python.hoistingOrder_eq_ok`: there is an order, and the one that is found is right.
-/

namespace SchemaClasses.Python

/-- A class needs the classes around it before it, its superclass and the classes around that. -/
def Requires (context : Context) (id other : ClassId) : Prop :=
  other ∈ context.graph.enclosing id ∨ ∃ base, context.superclass? id = some base ∧
    (other = base ∨ other ∈ context.graph.enclosing base)

/-- A class is one of the hoisted classes in a class at the top level. -/
structure HoistedIn (context : Context) (top id : ClassId) : Prop where
  inside : id < context.graph.size
  topLevel : context.graph.topLevel id = top
  hoisted : isHoisted context id

def RequiredFirst (context : Context) (top : ClassId) (order : List ClassId) : Prop :=
  ∀ before id after, order = before ++ id :: after →
    ∀ other, Requires context id other → HoistedIn context top other → other ∈ before

/-- A list holds the hoisted classes in a class at the top level, each once and after those of them
that it needs. -/
structure IsHoistingOrder (context : Context) (top : ClassId) (order : List ClassId) : Prop where
  nodup : order.Nodup
  mem_iff : ∀ id, id ∈ order ↔ HoistedIn context top id
  first : RequiredFirst context top order

/-! ## Ranks -/

def latest (graph : ClassGraph) (id : ClassId) : ClassId := (graph.lineage id).foldr max 0

/-- The rank of a class: first by the latest class among it and its bases, then by how many there
are. -/
def rank (graph : ClassGraph) (id : ClassId) : Nat :=
  latest graph id * (graph.size + 1) + (graph.lineage id).length

section

variable {source : Source} {s : BuildState} {context : Context} {id other top base outer : ClassId}

/-- In Python the superclass of a class is its base, unless the base is the class itself or stands
in it. -/
theorem superclass?_eq_some_iff (python : context.language = .python) :
    context.superclass? id = some base ↔ (context.graph.get id).base = some base ∧
      base ≠ id ∧ id ∉ context.graph.enclosing base := by
  unfold Context.superclass?
  rw [Option.filter_eq_some_iff]
  unfold Context.canExtend
  rw [python]
  simp

theorem le_foldr_max {ids : List Nat} {id : Nat} (mem : id ∈ ids) : id ≤ ids.foldr max 0 := by
  induction ids with
  | nil => cases mem
  | cons first rest ih =>
    rw [List.foldr_cons]
    rcases List.mem_cons.1 mem with rfl | mem
    · exact Nat.le_max_left _ _
    · exact Nat.le_trans (ih mem) (Nat.le_max_right _ _)

theorem foldr_max_lt {ids : List Nat} {bound : Nat} (pos : 0 < bound)
    (h : ∀ id ∈ ids, id < bound) : ids.foldr max 0 < bound := by
  induction ids with
  | nil => exact pos
  | cons first rest ih =>
    obtain ⟨first, others⟩ := List.forall_mem_cons.1 h
    exact Nat.max_lt.2 ⟨first, ih others⟩

/-- A hoisted class around another one, and all its bases, were declared before that one. -/
theorem latest_lt (sound : s.Sound source) (ordered : s.Ordered) (graph : context.graph = s.graph)
    (python : context.language = .python) (hoisted : isHoisted context outer)
    (around : outer ∈ s.graph.enclosing id) : latest s.graph outer < id := by
  obtain ⟨-, extends'⟩ := Bool.and_eq_true_iff.1 hoisted
  obtain ⟨base, found⟩ := Option.isSome_iff_exists.1 extends'
  obtain ⟨isBase, -, notInside⟩ := (superclass?_eq_some_iff python).1 found
  rw [graph] at isBase notInside
  obtain ⟨inner, nested, within⟩ := sound.nesting.mem_enclosing_iff.1 around
  have le : inner ≤ id := within.elim (fun eq => Nat.le_of_eq eq)
    fun mem => Nat.le_of_lt (sound.nesting.lt_of_mem_enclosing mem)
  have lt := sound.nesting.lt_of_mem_enclosing around
  have first : ∀ ancestor ∈ s.graph.lineage base, ancestor < inner := by
    rcases ordered.base isBase with inside | first
    · refine absurd ?_ notInside
      rw [ClassGraph.enclosing_eq sound.nesting.founded, inside]
      exact List.mem_cons_self
    · exact first inner nested
  have inside := Nat.lt_trans lt (sound.nesting.lt_size_of_mem_enclosing around)
  unfold latest
  rw [ClassGraph.lineage_eq sound.composition.founded inside, isBase, Option.elim_some]
  refine foldr_max_lt (Nat.zero_lt_of_lt lt) fun ancestor mem => ?_
  rcases List.mem_cons.1 mem with rfl | mem
  · exact lt
  · exact Nat.lt_of_lt_of_le (first ancestor mem) le

/-- A class with a later one among it and its bases has the higher rank. -/
theorem rank_lt_of_latest_lt (sound : s.Sound source) (inside : id < s.graph.size)
    (lt : latest s.graph id < latest s.graph other) : rank s.graph id < rank s.graph other := by
  have bound : (s.graph.lineage id).length ≤ s.graph.size :=
    sound.composition.founded.length_chainFrom_le _ fun _ found => Option.some.inj found ▸ inside
  have step := Nat.mul_le_mul_right (s.graph.size + 1) (Nat.succ_le_of_lt lt)
  rw [Nat.succ_mul] at step
  unfold rank
  omega

/-- A base has a lower rank than the class that extends it. -/
theorem rank_base_lt (sound : s.Sound source) (isBase : (s.graph.get id).base = some base)
    (inside : id < s.graph.size) : rank s.graph base < rank s.graph id := by
  have lineage := ClassGraph.lineage_eq sound.composition.founded inside
  rw [isBase, Option.elim_some] at lineage
  have le : latest s.graph base ≤ latest s.graph id := by
    unfold latest
    rw [lineage, List.foldr_cons]
    exact Nat.le_max_right _ _
  have step := Nat.mul_le_mul_right (s.graph.size + 1) le
  unfold rank
  rw [lineage, List.length_cons]
  omega

/-- Whatever a class needs before it is a class of the graph. -/
theorem requires_lt_size (sound : s.Sound source) (graph : context.graph = s.graph)
    (python : context.language = .python) (inside : id < s.graph.size)
    (required : Requires context id other) : other < s.graph.size := by
  unfold Requires at required
  rw [graph] at required
  rcases required with around | ⟨base, found, required⟩
  · exact Nat.lt_trans (sound.nesting.lt_of_mem_enclosing around) inside
  · obtain ⟨isBase, -⟩ := (superclass?_eq_some_iff python).1 found
    rw [graph] at isBase
    have lt := sound.composition.founded.lt_size isBase
    rcases required with rfl | around
    · exact lt
    · exact Nat.lt_trans (sound.nesting.lt_of_mem_enclosing around) lt

/-- What a class needs has a lower rank, if it is hoisted, too. -/
theorem rank_lt (sound : s.Sound source) (ordered : s.Ordered) (graph : context.graph = s.graph)
    (python : context.language = .python) (inside : id < s.graph.size)
    (hoisted : isHoisted context other) (required : Requires context id other) :
    rank s.graph other < rank s.graph id := by
  have self {id : ClassId} (inside : id < s.graph.size) : id ≤ latest s.graph id := by
    unfold latest
    rw [ClassGraph.lineage_eq sound.composition.founded inside]
    exact le_foldr_max List.mem_cons_self
  have ofAround {id : ClassId} (inside : id < s.graph.size)
      (around : other ∈ s.graph.enclosing id) : rank s.graph other < rank s.graph id := by
    have before := Nat.lt_trans (sound.nesting.lt_of_mem_enclosing around) inside
    refine rank_lt_of_latest_lt sound before ?_
    exact Nat.lt_of_lt_of_le (latest_lt sound ordered graph python hoisted around) (self inside)
  unfold Requires at required
  rw [graph] at required
  rcases required with around | ⟨base, found, rfl | around⟩
  · exact ofAround inside around
  · obtain ⟨isBase, -⟩ := (superclass?_eq_some_iff python).1 found
    exact rank_base_lt sound (graph ▸ isBase) inside
  · obtain ⟨isBase, -⟩ := (superclass?_eq_some_iff python).1 found
    rw [graph] at isBase
    exact Nat.lt_trans (ofAround (sound.composition.founded.lt_size isBase) around)
      (rank_base_lt sound isBase inside)

def countBelow (graph : ClassGraph) (id : ClassId) : Nat :=
  ((Finset.range graph.size).filter fun other => rank graph other < rank graph id).card

theorem countBelow_lt {graph : ClassGraph} (inside : other < graph.size)
    (lt : rank graph other < rank graph id) : countBelow graph other < countBelow graph id := by
  refine Finset.card_lt_card ⟨fun lower mem => ?_, fun sub => ?_⟩
  · obtain ⟨range, below⟩ := Finset.mem_filter.1 mem
    exact Finset.mem_filter.2 ⟨range, Nat.lt_trans below lt⟩
  · have self := sub (Finset.mem_filter.2 ⟨Finset.mem_range.2 inside, lt⟩)
    exact Nat.lt_irrefl _ (Finset.mem_filter.1 self).2

theorem countBelow_le (graph : ClassGraph) (id : ClassId) : countBelow graph id ≤ graph.size := by
  refine Nat.le_trans (Finset.card_filter_le _ _) ?_
  rw [Finset.card_range]

/-! ## Placing classes -/

/-- Hoisted classes in a class at the top level that stand in an order so far. -/
structure Sorted (context : Context) (top : ClassId) (ordered : List ClassId) : Prop where
  nodup : ordered.Nodup
  hoisted : ∀ id ∈ ordered, HoistedIn context top id
  first : RequiredFirst context top ordered

/-- Classes of a rank below a limit have been placed after those that had been before, and what has
been visited on the way has been placed. -/
structure Places (context : Context) (top : ClassId) (limit : Nat) (before after : Hoisting) :
    Prop where
  sorted : Sorted context top after.ordered
  subset : before.ordered ⊆ after.ordered
  new : ∀ id ∈ after.ordered, id ∈ before.ordered ∨ rank context.graph id < limit
  visiting : ∀ id ∈ after.visiting, id ∈ before.visiting ∨ id ∈ after.ordered

/-- A class can be placed: everything that has been visited on the way to it has been placed or has a
higher rank, and there is enough fuel for the classes of a lower rank. -/
structure Placeable (context : Context) (top limit fuel : Nat) (hoisting : Hoisting)
    (id : ClassId) : Prop where
  inside : id < context.graph.size
  topLevel : context.graph.topLevel id = top
  rank : isHoisted context id → rank context.graph id < limit
  visiting : isHoisted context id → ∀ visited ∈ hoisting.visiting,
    visited ∈ hoisting.ordered ∨ Python.rank context.graph id < Python.rank context.graph visited
  fuel : isHoisted context id → countBelow context.graph id < fuel

theorem Places.refl {limit : Nat} {hoisting : Hoisting}
    (sorted : Sorted context top hoisting.ordered) : Places context top limit hoisting hoisting :=
  ⟨sorted, fun _ mem => mem, fun _ => .inl, fun _ => .inl⟩

/-- Classes are placed one group after the other. -/
theorem Places.trans {limit : Nat} {first second third : Hoisting}
    (h : Places context top limit first second) (h' : Places context top limit second third) :
    Places context top limit first third where
  sorted := h'.sorted
  subset := List.Subset.trans h.subset h'.subset
  new id mem := (h'.new id mem).elim (h.new id) .inr
  visiting id mem := (h'.visiting id mem).elim
    (fun mem => (h.visiting id mem).imp_right (h'.subset ·)) .inr

/-- A class can be placed after others have been placed. -/
theorem Placeable.of_places {limit fuel : Nat} {before after : Hoisting}
    (h : Placeable context top limit fuel before id)
    (places : Places context top limit before after) :
    Placeable context top limit fuel after id := by
  refine ⟨h.inside, h.topLevel, h.rank, fun hoisted visited mem => ?_, h.fuel⟩
  rcases places.visiting visited mem with old | placed
  · exact (h.visiting hoisted visited old).imp_left (places.subset ·)
  · exact .inl placed

theorem Sorted.nil : Sorted context top [] :=
  ⟨List.nodup_nil, fun _ mem => absurd mem List.not_mem_nil, fun _ _ _ eq => by simp at eq⟩

/-- One more class is placed after all that it needs. -/
theorem Sorted.append {ordered : List ClassId} (h : Sorted context top ordered)
    (hoisted : HoistedIn context top id) (fresh : id ∉ ordered)
    (first : ∀ other, Requires context id other → HoistedIn context top other → other ∈ ordered) :
    Sorted context top (ordered ++ [id]) where
  nodup := by
    refine List.nodup_append.2 ⟨h.nodup, List.nodup_singleton id, fun old mem new mem' => ?_⟩
    rintro rfl
    exact fresh (List.mem_singleton.1 mem' ▸ mem)
  hoisted other mem := by
    rcases List.mem_append.1 mem with old | new
    · exact h.hoisted other old
    · exact List.mem_singleton.1 new ▸ hoisted
  first before last after eq := by
    rcases List.eq_nil_or_concat after with rfl | ⟨rest, final, rfl⟩
    · obtain ⟨rfl, same⟩ := List.append_inj' eq rfl
      exact List.singleton_inj.1 same ▸ first
    · rw [List.concat_eq_append, ← List.cons_append, ← List.append_assoc] at eq
      obtain ⟨rfl, -⟩ := List.append_inj' eq rfl
      exact h.first before last rest rfl

/-- Classes are placed one after the other if each of them can be. -/
theorem foldlM_eq_ok_of_placeable {limit fuel : Nat}
    (one : ∀ {id : ClassId} {hoisting : Hoisting}, Sorted context top hoisting.ordered →
      Placeable context top limit fuel hoisting id →
      ∃ after, hoist context top fuel id hoisting = .ok after ∧
        Places context top limit hoisting after ∧ (isHoisted context id → id ∈ after.ordered))
    {ids : List ClassId} {hoisting : Hoisting}
    (placeable : ∀ id ∈ ids, Placeable context top limit fuel hoisting id)
    (sorted : Sorted context top hoisting.ordered) :
    ∃ after, ids.foldlM (fun hoisting id => hoist context top fuel id hoisting) hoisting = .ok after ∧
      Places context top limit hoisting after ∧
      ∀ id ∈ ids, isHoisted context id → id ∈ after.ordered := by
  induction ids generalizing hoisting with
  | nil => exact ⟨hoisting, rfl, .refl sorted, fun _ mem => by cases mem⟩
  | cons id rest ih =>
    obtain ⟨first, others⟩ := List.forall_mem_cons.1 placeable
    obtain ⟨next, run, places, mem⟩ := one sorted first
    obtain ⟨after, run', places', mem'⟩ :=
      ih (fun other hother => (others other hother).of_places places) places.sorted
    refine ⟨after, ?_, places.trans places', fun other hother hoisted => ?_⟩
    · rw [List.foldlM_cons, run]
      exact run'
    · rcases List.mem_cons.1 hother with rfl | hother
      · exact places'.subset (mem hoisted)
      · exact mem' other hother hoisted

/-- The classes required before another one are those of the same module that it needs. -/
theorem mem_requiredBefore_iff (nesting : s.Nesting) (graph : context.graph = s.graph)
    (topLevel : s.graph.topLevel id = top) : other ∈ requiredBefore context top id ↔
      Requires context id other ∧ s.graph.topLevel other = top := by
  have around {outer : ClassId} (mem : other ∈ s.graph.enclosing outer) :
      s.graph.topLevel other = s.graph.topLevel outer := (nesting.topLevel_of_mem_enclosing mem).symm
  unfold requiredBefore Requires
  simp only [graph]
  cases context.superclass? id with
  | none =>
    simp only [List.mem_reverse, reduceCtorEq, false_and, exists_false, or_false]
    exact ⟨fun mem => ⟨mem, (around mem).trans topLevel⟩, And.left⟩
  | some base =>
    have ofBase (h : other = base ∨ other ∈ s.graph.enclosing base) :
        s.graph.topLevel other = s.graph.topLevel base := h.elim (fun eq => eq ▸ rfl) around
    simp only [Option.some.injEq, exists_eq_left']
    split
    · rename_i same
      simp only [List.mem_append, List.mem_reverse, List.mem_singleton]
      constructor
      · rintro ((mem | mem) | rfl)
        · exact ⟨.inl mem, (around mem).trans topLevel⟩
        · exact ⟨.inr (.inr mem), (around mem).trans same⟩
        · exact ⟨.inr (.inl rfl), same⟩
      · rintro ⟨mem | rfl | mem, -⟩
        · exact .inl (.inl mem)
        · exact .inr rfl
        · exact .inl (.inr mem)
    · rename_i elsewhere
      rw [List.mem_reverse]
      constructor
      · exact fun mem => ⟨.inl mem, (around mem).trans topLevel⟩
      · rintro ⟨mem | mem, eq⟩
        · exact mem
        · exact absurd ((ofBase mem).symm.trans eq) elsewhere

/-- What a hoisted class requires can be placed once the class has been visited. -/
theorem Placeable.required (sound : s.Sound source) (ordered : s.Ordered)
    (graph : context.graph = s.graph) (python : context.language = .python) {limit fuel : Nat}
    {hoisting : Hoisting} (h : Placeable context top limit (fuel + 1) hoisting id)
    (hoisted : isHoisted context id) (mem : other ∈ requiredBefore context top id) :
    Placeable context top (Python.rank context.graph id) fuel
      { hoisting with visiting := hoisting.visiting ++ [id] } other := by
  obtain ⟨requires, topLevel⟩ :=
    (mem_requiredBefore_iff sound.nesting graph (graph ▸ h.topLevel)).1 mem
  have inside := requires_lt_size sound graph python (graph ▸ h.inside) requires
  have lower (isHoisted : isHoisted context other) :
      Python.rank context.graph other < Python.rank context.graph id := by
    rw [graph]
    exact rank_lt sound ordered graph python (graph ▸ h.inside) isHoisted requires
  rw [← graph] at inside topLevel
  refine ⟨inside, topLevel, lower, fun hoisted' visited before => ?_, fun hoisted' => ?_⟩
  · rcases List.mem_append.1 before with before | last
    · exact (h.visiting hoisted visited before).imp_right (Nat.lt_trans (lower hoisted'))
    · exact .inr (List.mem_singleton.1 last ▸ lower hoisted')
  · exact Nat.lt_of_lt_of_le (countBelow_lt inside (lower hoisted'))
      (Nat.le_of_lt_succ (h.fuel hoisted))

/-- A class gets its place when all that it requires has one. -/
theorem Placeable.place {limit fuel : Nat} {hoisting after : Hoisting}
    (h : Placeable context top limit fuel hoisting id) (hoisted : isHoisted context id)
    (new : id ∉ hoisting.ordered)
    (places : Places context top (Python.rank context.graph id)
      { hoisting with visiting := hoisting.visiting ++ [id] } after)
    (first : ∀ other, Requires context id other → HoistedIn context top other →
      other ∈ after.ordered) :
    Places context top limit hoisting ⟨after.ordered ++ [id], after.visiting⟩ where
  sorted := places.sorted.append ⟨h.inside, h.topLevel, hoisted⟩
    (fun mem => (places.new id mem).elim new (Nat.lt_irrefl _)) first
  subset _ old := List.mem_append_left _ (places.subset old)
  new other mem := by
    rcases List.mem_append.1 mem with old | last
    · exact (places.new other old).imp_right fun lt => Nat.lt_trans lt (h.rank hoisted)
    · exact .inr (List.mem_singleton.1 last ▸ h.rank hoisted)
  visiting other mem := by
    rcases places.visiting other mem with before | placed
    · exact (List.mem_append.1 before).imp_right (List.mem_append_right _)
    · exact .inr (List.mem_append_left _ placed)

/-- A class is placed after all that it needs: by induction on the fuel, which is enough for the
classes of a lower rank. -/
theorem hoist_eq_ok (sound : s.Sound source) (ordered : s.Ordered)
    (graph : context.graph = s.graph) (python : context.language = .python) {limit fuel : Nat}
    {hoisting : Hoisting} (sorted : Sorted context top hoisting.ordered)
    (placeable : Placeable context top limit fuel hoisting id) :
    ∃ after, hoist context top fuel id hoisting = .ok after ∧
      Places context top limit hoisting after ∧ (isHoisted context id → id ∈ after.ordered) := by
  induction fuel generalizing limit id hoisting with
  | zero =>
    have stays : ¬isHoisted context id := fun hoisted =>
      Nat.not_lt_zero _ (placeable.fuel hoisted)
    refine ⟨hoisting, ?_, .refl sorted, fun hoisted => absurd hoisted stays⟩
    rw [hoist, if_pos (by simp [stays])]
  | succ fuel ih =>
    by_cases done : !isHoisted context id || hoisting.ordered.contains id
    · refine ⟨hoisting, ?_, .refl sorted, fun hoisted => ?_⟩
      · rw [hoist, if_pos done]
      · simpa [hoisted] using done
    · obtain ⟨hoisted, new⟩ : isHoisted context id ∧ id ∉ hoisting.ordered := by simpa using done
      have unvisited : ¬hoisting.visiting.contains id := fun mem =>
        (placeable.visiting hoisted id (by simpa using mem)).elim new (Nat.lt_irrefl _)
      have required (other : ClassId) (mem : other ∈ requiredBefore context top id) :=
        placeable.required sound ordered graph python hoisted mem
      obtain ⟨after, run, places, mem⟩ := foldlM_eq_ok_of_placeable ih required sorted
      have first (other : ClassId) (requires : Requires context id other)
          (inTop : HoistedIn context top other) : other ∈ after.ordered :=
        mem other ((mem_requiredBefore_iff sound.nesting graph (graph ▸ placeable.topLevel)).2
          ⟨requires, graph ▸ inTop.topLevel⟩) inTop.hoisted
      refine ⟨_, ?_, placeable.place hoisted new places first, fun _ => by simp⟩
      rw [hoist, if_neg done]
      simp only
      rw [if_neg unvisited, run]
      rfl

/-- The hoisted classes among the given ones are placed one after the other. -/
theorem foldlM_hoist_eq_ok (sound : s.Sound source) (ordered : s.Ordered)
    (graph : context.graph = s.graph) (python : context.language = .python) {ids : List ClassId}
    {start : List ClassId} (sorted : Sorted context top start)
    (inside : ∀ id ∈ ids, id < context.graph.size ∧ context.graph.topLevel id = top) :
    ∃ order, (ids.foldlM (fun ordered id => do
        return (← hoist context top (context.graph.size + 1) id ⟨ordered, []⟩).ordered) start :
          Except Failure (List ClassId)) = .ok order ∧
      Sorted context top order ∧ start ⊆ order ∧ ∀ id ∈ ids, isHoisted context id → id ∈ order := by
  induction ids generalizing start with
  | nil => exact ⟨start, rfl, sorted, fun _ mem => mem, fun _ mem => by cases mem⟩
  | cons id rest ih =>
    obtain ⟨⟨lt, topLevel⟩, others⟩ := List.forall_mem_cons.1 inside
    have placeable : Placeable context top (rank context.graph id + 1) (context.graph.size + 1)
        ⟨start, []⟩ id :=
      ⟨lt, topLevel, fun _ => Nat.lt_succ_self _, fun _ _ mem => absurd mem List.not_mem_nil,
        fun _ => Nat.lt_succ_of_le (countBelow_le _ _)⟩
    obtain ⟨after, run, places, first⟩ :=
      hoist_eq_ok sound ordered graph python sorted placeable
    obtain ⟨order, run', sorted', subset, rest'⟩ := ih places.sorted others
    refine ⟨order, ?_, sorted', List.Subset.trans places.subset subset, fun other mem hoisted => ?_⟩
    · rw [List.foldlM_cons, run]
      exact run'
    · rcases List.mem_cons.1 mem with rfl | mem
      · exact subset (first hoisted)
      · exact rest' other mem hoisted

/-- The hoisted classes of a module are those in the tree of its class that are written beside
it. -/
theorem hoistedIn_iff (nesting : s.Nesting) (graph : context.graph = s.graph)
    (mem : top ∈ s.topLevel) : HoistedIn context top id ↔
      id ∈ (s.graph.tree top).classes.tail ∧ isHoisted context id := by
  constructor
  · rintro ⟨inside, topLevel, hoisted⟩
    have inTree := (nesting.mem_topLevel_tree_iff mem).2 ⟨graph ▸ inside, graph ▸ topLevel⟩
    rw [nesting.classes_tree_eq] at inTree ⊢
    refine ⟨(List.mem_cons.1 inTree).resolve_left ?_, hoisted⟩
    rintro rfl
    obtain ⟨nested, -⟩ := Bool.and_eq_true_iff.1 hoisted
    rw [graph, (nesting.mem_topLevel_iff.1 mem).2] at nested
    cases nested
  · rintro ⟨inTail, hoisted⟩
    obtain ⟨inside, topLevel⟩ := (nesting.mem_topLevel_tree_iff mem).1 (List.mem_of_mem_tail inTail)
    exact ⟨graph ▸ inside, graph ▸ topLevel, hoisted⟩

/-- The hoisted classes in a class at the top level can be declared in an order in which each comes
after those that it needs, and such an order is found. -/
theorem hoistingOrder_eq_ok (sound : s.Sound source) (ordered : s.Ordered)
    (graph : context.graph = s.graph) (python : context.language = .python)
    (mem : top ∈ s.topLevel) :
    ∃ order, hoistingOrder context top = .ok order ∧ IsHoistingOrder context top order := by
  have inTree (id : ClassId) (h : id ∈ (context.graph.tree top).classes.tail) :
      id < context.graph.size ∧ context.graph.topLevel id = top := by
    rw [graph] at h ⊢
    exact (sound.nesting.mem_topLevel_tree_iff mem).1 (List.mem_of_mem_tail h)
  obtain ⟨order, run, sorted, -, all⟩ :=
    foldlM_hoist_eq_ok sound ordered graph python .nil inTree
  refine ⟨order, run, sorted.nodup, fun id => ⟨sorted.hoisted id, fun h => ?_⟩, sorted.first⟩
  rw [graph] at all
  exact all id ((hoistedIn_iff sound.nesting graph mem).1 h).1 h.hoisted

end

end SchemaClasses.Python
