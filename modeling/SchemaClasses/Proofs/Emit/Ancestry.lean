import SchemaClasses.Proofs.Build.Correspondence
import SchemaClasses.Proofs.Emit.Hoisting
import SchemaClasses.Proofs.Emit.ValueEquality

/-!
# Where superclasses are declared

No class can be declared with a superclass that is the class itself or stands somewhere in it. A
base stands in its class when something else has its name already where the class stands: then it is
declared in the class, before anything else is. In Kotlin only open bases are extended, and around
their alternatives; in Python a base that stands in its class is not extended; in Java it is.

## Main definitions

* `ClassGraph.StandsIn`: a class is another one, or is declared in it at any depth.

## Main statements

* `BuildState.Sound.standsIn_base_iff`: a base that stands in its class is declared directly in it.
* `Run.superclass_outside_iff`: a superclass does not stand in its class, but for the bases that are
  declared in their classes, in Java.
-/

namespace SchemaClasses

def ClassGraph.StandsIn (graph : ClassGraph) (inner outer : ClassId) : Prop :=
  outer = inner ∨ outer ∈ graph.enclosing inner

section

variable {source : Source} {s : BuildState} {context : Context} {id base : ClassId}

namespace BuildState.Sound

theorem le_of_standsIn (h : s.Sound source) (within : s.graph.StandsIn base id) : id ≤ base :=
  within.elim Nat.le_of_eq fun around => Nat.le_of_lt (h.nesting.lt_of_mem_enclosing around)

/-- A base that stands in its class is declared directly in it, since the bases of a class come
before what is declared in it. -/
theorem standsIn_base_iff (h : s.Sound source) (ordered : s.Ordered)
    (isBase : (s.graph.get id).base = some base) :
    s.graph.StandsIn base id ↔ (s.graph.get base).enclosing = some id := by
  constructor
  · rintro (rfl | around)
    · exact absurd isBase (h.composition.founded.ne_self id)
    · rcases ordered.base isBase with nested | first
      · exact nested
      · obtain ⟨inner, nested, within⟩ := h.nesting.mem_enclosing_iff.1 around
        have before := first inner nested base
          (h.mem_lineage_self (h.composition.founded.lt_size isBase))
        exact absurd before (Nat.not_lt.2 (h.le_of_standsIn within))
  · intro nested
    refine .inr ?_
    rw [ClassGraph.enclosing_eq h.nesting.founded, nested]
    exact List.mem_cons_self

/-- An open base stands around what extends it. -/
theorem enclosing_of_openBase (h : s.Sound source) (isBase : (s.graph.get id).base = some base)
    (isOpen : (s.graph.get base).kind = .openBase) : (s.graph.get id).enclosing = some base := by
  rcases h.composition.base isBase with variant | extension
  · exact variant.enclosing
  · exact absurd isOpen (ClassKind.ne_of_plain_or_data extension.baseKind).1

end BuildState.Sound

/-! ## Runs -/

variable {document package : Value} {registered : List Definition}
  {returned : List (Definition × ClassId)} {succeeded : Bool}

/-- The superclass of a class is neither the class nor declared in it, at any depth. This fails
exactly in Java, when the base of a class is declared in the class. -/
theorem Run.superclass_outside_iff (distinct : document.distinctKeys)
    (run : Run ⟨.ofValue document, package⟩ registered returned succeeded s)
    (graph : context.graph = s.graph) (superclass : context.superclass? id = some base) :
    ¬context.graph.StandsIn base id ↔
      ¬(context.language = .java ∧ (context.graph.get base).enclosing = some id) := by
  have invariant := run.invariant distinct rfl
  have sound := invariant.sound
  have isBase := Context.base_of_superclass? superclass
  rw [graph] at isBase ⊢
  cases language : context.language with
  | kotlin =>
    have isOpen : (s.graph.get base).kind = .openBase := by
      have extended := (Option.filter_eq_some_iff.1 superclass).2
      simpa [Context.canExtend, language, graph] using extended
    -- The class stands in its superclass, and so it was declared after that.
    have after := sound.nesting.enclosing_lt (sound.enclosing_of_openBase isBase isOpen)
    simpa using fun within => Nat.not_lt.2 (sound.le_of_standsIn within) after
  | java => simpa using not_congr (sound.standsIn_base_iff invariant.ordered isBase)
  | python =>
    obtain ⟨-, ne, outside⟩ := (Python.superclass?_eq_some_iff language).1 superclass
    rw [graph] at outside
    simpa using fun within : s.graph.StandsIn base id => within.elim ne.symm outside

/-- Savings accounts are accounts. -/
theorem Run.superclass_outside_iff_accounts : ∃ id s,
    buildRoot ⟨.ofValue accounts, .string ""⟩ (.ofValue accounts) none {} = .ok id s ∧
    ∀ language ∈ TargetLanguage.all, ∃ context : Context, context.graph = s.graph ∧
      context.language = language ∧ context.superclass? 1 = some 0 ∧
      ¬context.graph.StandsIn 0 1 := by
  let context (graph : ClassGraph) (language : TargetLanguage) : Context :=
    { graph, settings := {}, language }
  have built : ((buildRoot ⟨.ofValue accounts, .string ""⟩ (.ofValue accounts) none >>=
      fun _ => get).run' {}).any fun s => (s.graph.get 0).enclosing = none &&
        TargetLanguage.all.all fun language =>
          (context s.graph language).superclass? 1 == some 0 := by
    decide +kernel
  obtain ⟨id, s, run, test⟩ := Build.exists_of_any built
  simp only [Bool.and_eq_true, decide_eq_true_eq, beq_iff_eq, List.all_eq_true] at test
  obtain ⟨outermost, each⟩ := test
  refine ⟨id, s, run, fun language mem => ⟨context s.graph language, rfl, rfl, each _ mem, ?_⟩⟩
  refine (Run.superclass_outside_iff (by decide : accounts.distinctKeys) (.root run) rfl
    (each language mem)).2 fun ⟨_, inside⟩ => ?_
  rw [show (context s.graph language).graph = s.graph from rfl, outermost] at inside
  cases inside

/-- An order with an invoice that extends a definition. Another property of the order has the name
that the definition would get at the top level. -/
def invoices : Value := .object [
  ("properties", .object [
    ("address", .object [("title", .string "Address"),
      ("properties", .object [("street", .object [("type", .string "string")])])]),
    ("invoice", .object [("title", .string "Invoice"), ("allOf", .array [
      .object [("$ref", .string "#/definitions/address")],
      .object [("properties", .object [("total", .object [("type", .string "number")])])]])])]),
  ("definitions", .object [("address", .object [
    ("properties", .object [("city", .object [("type", .string "string")])])])])]

/-- In Java, the invoice of an order extends the address that is declared in it. -/
theorem invoices_superclass_inside : ∃ id s,
    buildRoot ⟨.ofValue invoices, .string ""⟩ (.ofValue invoices) (some "Order") {} = .ok id s ∧
    ∃ (context : Context) (declaration : Declaration), context.graph = s.graph ∧
      context.language = .java ∧ context.superclass? 2 = some 3 ∧
      context.Declares 2 declaration ∧
      declaration.head = ["public class Invoice extends Invoice.Address \x7b"] ∧
      context.graph.StandsIn 3 2 := by
  let context (graph : ClassGraph) : Context := { graph, settings := {}, language := .java }
  let written (context : Context) : Option Declaration :=
    ((context.place 2).declaration 2 ((context.inFile 2).nestedSections
      ((context.graph.get 2).nested.map context.graph.tree))).run' {}
  have built : ((buildRoot ⟨.ofValue invoices, .string ""⟩ (.ofValue invoices) (some "Order") >>=
      fun _ => get).run' {}).any fun s => (context s.graph).superclass? 2 == some 3 &&
        (s.graph.enclosing 3).contains 2 && (written (context s.graph)).any (·.head ==
          ["public class Invoice extends Invoice.Address \x7b"]) := by
    decide +kernel
  obtain ⟨id, s, run, test⟩ := Build.exists_of_any built
  simp only [Bool.and_eq_true, beq_iff_eq, List.contains_iff_mem, Option.any_eq_true] at test
  obtain ⟨⟨superclass, around⟩, declaration, given, head⟩ := test
  exact ⟨id, s, run, context s.graph, declaration, rfl, rfl, superclass, Emit.gives_of_run' given,
    head, .inr around⟩

end

end SchemaClasses
