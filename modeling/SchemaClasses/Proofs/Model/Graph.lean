import Mathlib.Data.List.Perm.Subperm
import Mathlib.Order.WellFounded
import SchemaClasses.Model.Graph

/-!
# Chains in the class graph

The chains of enclosing classes and of bases are cut off after as many steps as there are classes.
Nothing is lost by that when no class comes back to itself: then the chains satisfy the equations of
the recursion without a bound.

## Main definitions

* `ClassGraph.Founded`: going on from class to class comes to an end.

## Main statements

* `ClassGraph.enclosing_eq`, `ClassGraph.lineage_eq`, `ClassGraph.allProperties_eq`: one step of a
  chain.
* `ClassGraph.Founded.of_unreached`: a class that no other one leads to may be made to lead anywhere
  else.
-/

namespace SchemaClasses

namespace ClassGraph

/-! ## Classes of a changed graph -/

@[simp] theorem size_add (graph : ClassGraph) (model : ClassModel) :
    (graph.add model).size = graph.size + 1 := by
  simp [add, size]

@[simp] theorem size_update (graph : ClassGraph) (id : ClassId) (f : ClassModel → ClassModel) :
    (graph.update id f).size = graph.size := by
  simp [update, size]

theorem get_of_size_le {graph : ClassGraph} {id : ClassId} (h : graph.size ≤ id) :
    graph.get id = default := by
  simp [get, List.getElem?_eq_none h]

theorem get_add_size (graph : ClassGraph) (model : ClassModel) :
    (graph.add model).get graph.size = model := by
  simp [get, add, size]

theorem get_add_of_lt {graph : ClassGraph} {id : ClassId} (h : id < graph.size)
    (model : ClassModel) : (graph.add model).get id = graph.get id := by
  simp [get, add, List.getElem?_append_left h]

theorem get_update_self {graph : ClassGraph} {id : ClassId} (h : id < graph.size)
    (f : ClassModel → ClassModel) : (graph.update id f).get id = f (graph.get id) := by
  have found : graph.classes[id]? = some (graph.classes[id]) := List.getElem?_eq_getElem h
  simp [get, update, found]

theorem get_update_of_ne {graph : ClassGraph} {id other : ClassId} (h : other ≠ id)
    (f : ClassModel → ClassModel) : (graph.update id f).get other = graph.get other := by
  simp [get, update, Ne.symm h]

/-! ## Chains -/

/-- Going on from class to class stays within the graph and comes to an end. -/
structure Founded (graph : ClassGraph) (next : ClassModel → Option ClassId) : Prop where
  lt_size : ∀ {id other}, next (graph.get id) = some other → other < graph.size
  wellFounded : WellFounded fun other id => next (graph.get id) = some other

section

variable {graph : ClassGraph} {next : ClassModel → Option ClassId}

@[simp] theorem chainFrom_none (fuel : Nat) : graph.chainFrom next fuel none = [] := by
  cases fuel <;> rfl

/-- More fuel finds more of a chain after what is found already. -/
theorem chainFrom_eq_take (fuel extra : Nat) (start : Option ClassId) :
    graph.chainFrom next fuel start = (graph.chainFrom next (fuel + extra) start).take fuel := by
  induction fuel generalizing start with
  | zero => rfl
  | succ fuel ih =>
    cases start with
    | none => simp
    | some id => rw [Nat.add_right_comm, chainFrom, chainFrom, List.take_succ_cons, ← ih]

theorem chainFrom_congr {graph' : ClassGraph}
    (same : ∀ id, next (graph'.get id) = next (graph.get id)) (fuel : Nat)
    (start : Option ClassId) :
    graph'.chainFrom next fuel start = graph.chainFrom next fuel start := by
  induction fuel generalizing start with
  | zero => rfl
  | succ fuel ih =>
    cases start with
    | none => rfl
    | some id => rw [chainFrom, chainFrom, same, ih]

/-- Whatever a chain comes to is reached from its start. -/
theorem transGen_of_mem_chainFrom {fuel : Nat} {id other : ClassId}
    (h : other ∈ graph.chainFrom next fuel (next (graph.get id))) :
    Relation.TransGen (fun other id => next (graph.get id) = some other) other id := by
  induction fuel generalizing id with
  | zero => cases h
  | succ fuel ih =>
    cases hnext : next (graph.get id) with
    | none =>
      rw [hnext] at h
      cases h
    | some following =>
      rw [hnext] at h
      rcases List.mem_cons.1 h with rfl | h
      · exact .single hnext
      · exact (ih h).tail hnext

namespace Founded

theorem ne_self (h : graph.Founded next) (id : ClassId) : next (graph.get id) ≠ some id :=
  fun loop => h.wellFounded.irrefl.irrefl id loop

/-- No class is met twice on a chain. -/
theorem nodup_chainFrom (h : graph.Founded next) (fuel : Nat) (start : Option ClassId) :
    (graph.chainFrom next fuel start).Nodup := by
  induction fuel generalizing start with
  | zero => exact List.nodup_nil
  | succ fuel ih =>
    cases start with
    | none => exact List.nodup_nil
    | some id =>
      refine List.nodup_cons.2 ⟨fun mem => ?_, ih _⟩
      exact h.wellFounded.transGen.irrefl.irrefl id (transGen_of_mem_chainFrom mem)

/-- Chains of founded links stay within the graph. -/
theorem lt_size_of_mem_chainFrom (h : graph.Founded next) {fuel : Nat} {start : Option ClassId}
    (inside : ∀ id ∈ start, id < graph.size) {other : ClassId}
    (mem : other ∈ graph.chainFrom next fuel start) : other < graph.size := by
  induction fuel generalizing start with
  | zero => cases mem
  | succ fuel ih =>
    cases start with
    | none => cases mem
    | some id =>
      rcases List.mem_cons.1 mem with rfl | mem
      · exact inside other rfl
      · exact ih (fun _ found => h.lt_size found) mem

theorem length_chainFrom_le (h : graph.Founded next) (fuel : Nat) {start : Option ClassId}
    (inside : ∀ id ∈ start, id < graph.size) :
    (graph.chainFrom next fuel start).length ≤ graph.size := by
  have sub : graph.chainFrom next fuel start ⊆ List.range graph.size := fun other mem =>
    List.mem_range.2 (h.lt_size_of_mem_chainFrom inside mem)
  simpa using ((h.nodup_chainFrom fuel start).subperm sub).length_le

/-- As many steps as there are classes go to the end of a chain. -/
theorem chainFrom_size (h : graph.Founded next) (extra : Nat) {start : Option ClassId}
    (inside : ∀ id ∈ start, id < graph.size) :
    graph.chainFrom next graph.size start = graph.chainFrom next (graph.size + extra) start := by
  rw [chainFrom_eq_take graph.size extra]
  exact List.take_of_length_le (h.length_chainFrom_le _ inside)

theorem chainFrom_some (h : graph.Founded next) {id : ClassId} (inside : id < graph.size) :
    graph.chainFrom next graph.size (some id) =
      id :: graph.chainFrom next graph.size (next (graph.get id)) := by
  rw [h.chainFrom_size 1 (by simpa using inside), chainFrom]

/-- Chains that stop earlier come to an end, too. -/
theorem mono (h : graph.Founded next) {next' : ClassModel → Option ClassId}
    (le : ∀ {model other}, next' model = some other → next model = some other) :
    graph.Founded next' where
  lt_size found := h.lt_size (le found)
  wellFounded := Subrelation.wf (fun found => le found) h.wellFounded

/-- A chain holds what comes after a class of it. -/
theorem mem_chainFrom_next (h : graph.Founded next) {id other following : ClassId}
    (inside : id < graph.size) (mem : other ∈ graph.chainFrom next graph.size (some id))
    (found : next (graph.get other) = some following) :
    following ∈ graph.chainFrom next graph.size (some id) := by
  induction h.wellFounded.apply id with
  | intro id _ ih =>
    rw [h.chainFrom_some inside] at mem ⊢
    refine List.mem_cons_of_mem id ?_
    rcases List.mem_cons.1 mem with rfl | mem
    · rw [found, h.chainFrom_some (h.lt_size found)]
      exact List.mem_cons_self
    · cases hnext : next (graph.get id) with
      | none => simp [hnext] at mem
      | some onward =>
        rw [hnext] at mem
        exact ih onward hnext (h.lt_size hnext) mem

/-- In a graph that differs only in a class to which no other one leads, and in which that class
does not lead to itself, chains still come to an end. -/
theorem of_unreached (h : graph.Founded next) {graph' : ClassGraph} {id : ClassId}
    (le : graph.size ≤ graph'.size)
    (same : ∀ other, other ≠ id → next (graph'.get other) = next (graph.get other))
    (unreached : ∀ other, next (graph.get other) ≠ some id)
    (onward : ∀ other, next (graph'.get id) = some other → other < graph'.size ∧ other ≠ id) :
    graph'.Founded next := by
  have acc (other : ClassId) (ne : other ≠ id) :
      Acc (fun other id => next (graph'.get id) = some other) other := by
    induction h.wellFounded.apply other with
    | intro other _ ih =>
      refine .intro other fun following hnext => ?_
      rw [same other ne] at hnext
      exact ih following hnext fun eq => unreached other (eq ▸ hnext)
  constructor
  · intro other following hnext
    by_cases eq : other = id
    · exact (onward following (eq ▸ hnext)).1
    · rw [same other eq] at hnext
      exact Nat.lt_of_lt_of_le (h.lt_size hnext) le
  · refine ⟨fun other => ?_⟩
    by_cases eq : other = id
    · exact .intro other fun following hnext => acc following (onward following (eq ▸ hnext)).2
    · exact acc other eq

end Founded

end

/-! ## Enclosing classes and bases -/

section

variable {graph graph' : ClassGraph} {id : ClassId}

theorem enclosing_eq (h : graph.Founded (·.enclosing)) (id : ClassId) :
    graph.enclosing id =
      (graph.get id).enclosing.elim [] fun outer => outer :: graph.enclosing outer := by
  unfold enclosing
  cases henclosing : (graph.get id).enclosing with
  | none => simp
  | some outer => exact h.chainFrom_some (h.lt_size henclosing)

/-- The outermost class around a class is the class itself or that around the class around it. -/
theorem topLevel_eq (h : graph.Founded (·.enclosing))
    (id : ClassId) : graph.topLevel id = (graph.get id).enclosing.elim id graph.topLevel := by
  unfold topLevel
  rw [enclosing_eq h]
  cases (graph.get id).enclosing with
  | none => rfl
  | some outer => exact List.getLastD_cons

/-- The outermost class is the class itself or one around it. -/
theorem topLevel_mem_enclosing (graph : ClassGraph) (id : ClassId) :
    graph.topLevel id = id ∨ graph.topLevel id ∈ graph.enclosing id := by
  unfold topLevel
  cases graph.enclosing id with
  | nil => exact .inl rfl
  | cons next rest =>
    rw [List.getLastD_cons]
    exact .inr List.getLastD_mem_cons

/-- The names of a class are those of the class around it and its own. -/
theorem nameChain_eq (h : graph.Founded (·.enclosing)) (id : ClassId) :
    graph.nameChain id =
      (graph.get id).enclosing.elim [] graph.nameChain ++ [(graph.get id).name] := by
  unfold nameChain
  rw [enclosing_eq h]
  cases (graph.get id).enclosing with
  | none => rfl
  | some outer => simp

theorem enclosing_congr (size : graph'.size = graph.size)
    (same : ∀ id, (graph'.get id).enclosing = (graph.get id).enclosing) (id : ClassId) :
    graph'.enclosing id = graph.enclosing id := by
  unfold enclosing
  rw [size, same, chainFrom_congr same]

theorem allProperties_congr (size : graph'.size = graph.size)
    (base : ∀ id, (graph'.get id).base = (graph.get id).base)
    (properties : ∀ id, (graph'.get id).properties = (graph.get id).properties) (id : ClassId) :
    graph'.allProperties id = graph.allProperties id := by
  unfold allProperties lineage
  rw [size, chainFrom_congr base]
  simp only [properties]

theorem lt_size_of_mem_enclosing (h : graph.Founded (·.enclosing)) {outer : ClassId}
    (mem : outer ∈ graph.enclosing id) : outer < graph.size :=
  h.lt_size_of_mem_chainFrom (fun _ found => h.lt_size found) mem

/-- The lineage of a class goes on with that of its base. -/
theorem lineage_eq (h : graph.Founded (·.base)) (inside : id < graph.size) :
    graph.lineage id = id :: (graph.get id).base.elim [] graph.lineage := by
  refine (h.chainFrom_some inside).trans ?_
  cases (graph.get id).base with
  | none => simp
  | some base => rfl

theorem lt_size_of_mem_lineage (h : graph.Founded (·.base)) (inside : id < graph.size)
    {ancestor : ClassId} (mem : ancestor ∈ graph.lineage id) : ancestor < graph.size :=
  h.lt_size_of_mem_chainFrom (fun _ found => Option.some.inj found ▸ inside) mem

/-- The properties of a class are those of its base and then its own. -/
theorem allProperties_eq (h : graph.Founded (·.base)) (inside : id < graph.size) :
    graph.allProperties id =
      (graph.get id).base.elim [] graph.allProperties ++ (graph.get id).properties := by
  unfold allProperties
  rw [lineage_eq h inside]
  cases (graph.get id).base with
  | none => simp
  | some base => simp

/-- The lineage of a class is the same in another graph when the classes of a set that is closed
under bases keep their bases. -/
theorem lineage_congr (h : graph.Founded (·.base)) (h' : graph'.Founded (·.base))
    (le : graph.size ≤ graph'.size) (closed : ClassId → Prop)
    (inside : ∀ {other}, closed other → other < graph.size)
    (same : ∀ {other}, closed other → (graph'.get other).base = (graph.get other).base)
    (onward : ∀ {other base}, closed other → (graph.get other).base = some base → closed base)
    (holds : closed id) : graph'.lineage id = graph.lineage id := by
  induction h.wellFounded.apply id with
  | intro id _ ih =>
    rw [lineage_eq h (inside holds), lineage_eq h' (Nat.lt_of_lt_of_le (inside holds) le),
      same holds]
    cases hbase : (graph.get id).base with
    | none => rfl
    | some base =>
      have eq := ih base hbase (onward holds hbase)
      rw [Option.elim_some, Option.elim_some, eq]

/-- The properties of a class stay as they are when neither it nor a base of it changes. -/
theorem allProperties_of_unreached (h : graph.Founded (·.base)) (h' : graph'.Founded (·.base))
    (le : graph.size ≤ graph'.size)
    (same : ∀ other, other < graph.size → other ≠ id →
      (graph'.get other).base = (graph.get other).base ∧
        (graph'.get other).properties = (graph.get other).properties)
    (unreached : ∀ other, (graph.get other).base ≠ some id) {other : ClassId}
    (inside : other < graph.size) (ne : other ≠ id) :
    graph'.allProperties other = graph.allProperties other := by
  induction h.wellFounded.apply other with
  | intro other _ ih =>
    obtain ⟨sameBase, sameProperties⟩ := same other inside ne
    rw [allProperties_eq h inside, allProperties_eq h' (Nat.lt_of_lt_of_le inside le), sameBase,
      sameProperties]
    cases hbase : (graph.get other).base with
    | none => rfl
    | some base =>
      have eq := ih base hbase (h.lt_size hbase) fun eq => unreached other (eq ▸ hbase)
      rw [Option.elim_some, Option.elim_some, eq]

end

end ClassGraph

end SchemaClasses
