import Mathlib.Data.List.Pairwise
import SchemaClasses.Proofs.Emit.Lookup

/-!
# Properties along the chain of superclasses

The superclasses of a class are the first ones of its bases, up to the first base that cannot be
extended. What a class inherits and what it declares are its properties, whether its base is
extended or not, and so the classes of the chain divide the properties among them.

## Main definitions

* `Context.superclassChain`: a class and its superclasses.

## Main statements

* `Context.superclassChain_eq`: one step of the chain.
* `Context.splitFields_append`: what a class inherits and what it declares are its properties.
* `Context.existsUnique_owner`: each property is declared by one class of the chain.
-/

namespace SchemaClasses.Context

def superclassChain (context : Context) (id : ClassId) : List ClassId :=
  context.superclasses context.graph.size (some id)

variable {context : Context} {id base : ClassId}

theorem base_of_superclass? (h : context.superclass? id = some base) :
    (context.graph.get id).base = some base :=
  (Option.filter_eq_some_iff.1 h).1

/-! ## The chain -/

@[simp] theorem superclasses_none (fuel : Nat) : context.superclasses fuel none = [] := by
  cases fuel <;> rfl

/-- More fuel finds more superclasses after those found already. -/
theorem superclasses_eq_take (fuel extra : Nat) (start : Option ClassId) :
    context.superclasses fuel start = (context.superclasses (fuel + extra) start).take fuel := by
  induction fuel generalizing start with
  | zero => rfl
  | succ fuel ih =>
    cases start with
    | none => simp
    | some id => rw [Nat.add_right_comm, superclasses, superclasses, List.take_succ_cons, ← ih]

/-- The superclasses of a class are the first ones of its bases. -/
theorem superclasses_prefix_chainFrom (fuel : Nat) (start : Option ClassId) :
    context.superclasses fuel start <+: context.graph.chainFrom (·.base) fuel start := by
  induction fuel generalizing start with
  | zero => exact List.nil_prefix
  | succ fuel ih =>
    cases start with
    | none => simp
    | some id =>
      refine List.cons_prefix_cons.2 ⟨rfl, ?_⟩
      cases found : context.superclass? id with
      | none => simp
      | some base =>
        simp only [base_of_superclass? found]
        exact ih (some base)

section

variable (bases : context.graph.Founded (·.base)) (inside : id < context.graph.size)
include bases inside

theorem lt_size_of_mem_superclassChain {other : ClassId}
    (mem : other ∈ context.superclassChain id) : other < context.graph.size :=
  ClassGraph.lt_size_of_mem_lineage bases inside ((superclasses_prefix_chainFrom _ _).subset mem)

/-- The chain of a class goes on with that of its superclass. -/
theorem superclassChain_eq : context.superclassChain id =
    id :: (context.superclass? id).elim [] context.superclassChain := by
  have short : (context.superclasses (context.graph.size + 1) (some id)).length ≤
      context.graph.size :=
    (superclasses_prefix_chainFrom _ _).length_le.trans
      (bases.length_chainFrom_le _ fun _ found => Option.some.inj found ▸ inside)
  unfold superclassChain
  rw [superclasses_eq_take _ 1, List.take_of_length_le short, superclasses]
  cases context.superclass? id <;> simp

/-! ## Properties -/

/-- What a class inherits and what it declares are its properties. -/
theorem splitFields_append : (context.splitFields id).1 ++ (context.splitFields id).2 =
    context.graph.allProperties id := by
  unfold splitFields
  cases found : context.superclass? id with
  | none => rfl
  | some base =>
    rw [ClassGraph.allProperties_eq bases inside, base_of_superclass? found]
    rfl

/-- The properties of a class are those that the classes of its chain declare, the furthest one
first. -/
theorem flatMap_own : ((context.superclassChain id).reverse.flatMap fun owner =>
    (context.splitFields owner).2) = context.graph.allProperties id := by
  induction bases.wellFounded.apply id with
  | intro id _ ih =>
    rw [superclassChain_eq bases inside, List.reverse_cons, List.flatMap_append,
      List.flatMap_singleton, ← splitFields_append bases inside]
    congr 1
    cases found : context.superclass? id with
    | none => simp [splitFields, found]
    | some base =>
      have isBase := base_of_superclass? found
      rw [Option.elim_some, ih base isBase (bases.lt_size isBase)]
      simp [splitFields, found]

/-- Each property of a class is declared by one class of its chain. -/
theorem existsUnique_owner (distinct : DistinctNames (context.graph.allProperties id)) :
    ∀ property ∈ context.graph.allProperties id, ∃! owner,
      owner ∈ context.superclassChain id ∧ property ∈ (context.splitFields owner).2 := by
  intro property mem
  have nodup := distinct.of_map
  rw [← flatMap_own bases inside] at mem nodup
  obtain ⟨owner, hmem, declared⟩ := List.mem_flatMap.1 mem
  refine ⟨owner, ⟨List.mem_reverse.1 hmem, declared⟩, fun other ⟨hother, also⟩ => ?_⟩
  have symm : Std.Symm (Function.onFun List.Disjoint fun owner =>
      (context.splitFields owner).2) := ⟨fun _ _ apart => List.disjoint_symm apart⟩
  by_contra ne
  exact (List.nodup_flatMap.1 nodup).2.forall (List.mem_reverse.2 hother) hmem ne also declared

end

end SchemaClasses.Context
