import Mathlib.Logic.Relation
import SchemaClasses.Proofs.Build.Dependence
import SchemaClasses.Proofs.Emit.ImportLines

/-!
# Imports of Python modules

A Python module imports the modules of the classes that its classes extend when it is loaded; all
other classes of other modules are imported for annotations only. So the imports at load time are
dependences between top-level classes.

## Main definitions

* `ClassGraph.Imports`: a module imports another one at load time.

## Main statements

* `exists_base_of_mem_runtimeImports`: what a module imports at load time are superclasses.
* `ClassGraph.Imports.dependsOn`: the imports are dependences.
-/

namespace SchemaClasses

/-- The names of the modules that the module of a top-level class imports when it is loaded. -/
def ClassGraph.runtimeImports (graph : ClassGraph) (settings : Settings) (id : ClassId) :
    List String :=
  match Context.writeFile { graph, settings, language := .python } id {} with
  | .ok _ needs => needs.bases
  | .error _ _ => []

structure ClassGraph.Imports (graph : ClassGraph) (settings : Settings) (x y : ClassId) : Prop where
  importing : x < graph.size ∧ (graph.get x).enclosing = none
  imported : y < graph.size ∧ (graph.get y).enclosing = none
  named : (graph.get y).name ∈ graph.runtimeImports settings x

instance (graph : ClassGraph) (settings : Settings) (x y : ClassId) :
    Decidable (graph.Imports settings x y) :=
  decidable_of_iff ((x < graph.size ∧ (graph.get x).enclosing = none) ∧
      (y < graph.size ∧ (graph.get y).enclosing = none) ∧
      (graph.get y).name ∈ graph.runtimeImports settings x)
    ⟨fun h => ⟨h.1, h.2.1, h.2.2⟩, fun h => ⟨h.importing, h.imported, h.named⟩⟩

/-- The lines with imports name the bases that have been gathered before. -/
theorem bases_of_importLines {needs needs' : Requirements} {lines : List String}
    (run : importLines .python needs = .ok lines needs') : needs'.bases = needs.bases := by
  rw [importLines_python] at run
  cases run
  unfold Python.imported
  split <;> rfl

/-- What the module of a top-level class imports when it is loaded are superclasses of classes in
it. -/
theorem exists_base_of_mem_runtimeImports {source : Source} {s : BuildState} {settings : Settings}
    {x : ClassId} {name : String} (sound : s.Sound source) (ordered : s.Ordered)
    (memTop : x ∈ s.topLevel) (mem : name ∈ s.graph.runtimeImports settings x) :
    ∃ id base, s.graph.topLevel id = x ∧ (s.graph.get id).base = some base ∧
      s.graph.topLevel base ≠ x ∧ (s.graph.get (s.graph.topLevel base)).name = name := by
  unfold ClassGraph.runtimeImports at mem
  split at mem
  case h_2 => cases mem
  rename_i needs' run
  obtain ⟨body, lines, needs, isBody, areLines, -⟩ := ClassGraph.exists_body run
  rw [bases_of_importLines areLines] at mem
  have isNeeded := ((has_iff_of_fileBody sound ordered rfl memTop isBody).1 (.base name)).1 mem
  obtain ⟨id, inFile, may⟩ :=
    ((ClassGraph.mem_fileNeeds_iff sound.nesting memTop).1 isNeeded).exists_mayNeed
  cases may with
  | @base base _ found elsewhere =>
    obtain ⟨isBase, -⟩ := (Python.superclass?_eq_some_iff rfl).1 found
    exact ⟨id, base, inFile, isBase, fun eq => elsewhere (congrArg some eq.symm), rfl⟩

/-- A module imports another one when it is loaded only if its top-level class depends on the other
one. -/
theorem ClassGraph.Imports.dependsOn {source : Source} {s : BuildState} {settings : Settings}
    {x y : ClassId} (sound : s.Sound source) (ordered : s.Ordered)
    (h : s.graph.Imports settings x y) : s.graph.DependsOn x y := by
  have memX := sound.nesting.mem_topLevel_iff.2 h.importing
  have memY := sound.nesting.mem_topLevel_iff.2 h.imported
  obtain ⟨id, base, top, isBase, ne, name⟩ :=
    exists_base_of_mem_runtimeImports sound ordered memX h.named
  have memTop := sound.nesting.topLevel_mem (sound.composition.founded.lt_size isBase)
  have same := List.inj_on_of_nodup_map sound.nodup_topLevel memTop memY name
  exact ⟨fun eq => ne (same.trans eq.symm), id, base, isBase, top, same⟩

section

variable {document : Value} {settings : Settings} {request : Request} {graph : ClassGraph}
  {classes : List ClassId}

/-- The modules of a run can be imported in any order exactly when no import leads to a module that
was begun before and from which imports lead back, where a class nested in that module is
extended. -/
theorem imports_acyclic_iff (distinct : document.distinctKeys)
    (h : requestedClasses (.ofValue document) settings request = .ok (graph, classes)) :
    (∀ x, ¬Relation.TransGen (graph.Imports settings) x x) ↔
      ∀ x y, graph.Imports settings x y → graph.DependsLate x y →
        ¬Relation.ReflTransGen (graph.Imports settings) y x := by
  obtain ⟨registered, returned, s, run, rfl⟩ := Run.of_requested h
  have invariant := run.invariant distinct rfl
  constructor
  · exact fun acyclic x y imports _ back => acyclic x (.head' imports back)
  · intro noneBack x cycle
    obtain ⟨a, b, before, imports, late, after⟩ := invariant.layered.exists_late
      (fun imports => imports.dependsOn invariant.sound invariant.ordered) cycle
    exact noneBack a b imports late (after.trans before)

end

/-- A document with two members, in each of which a class extends one of the other. -/
def mutualBases : Value := .object [("definitions", .object [
  ("P", .object [("type", .string "object")]),
  ("A", .object [("properties", .object [
    ("first", .object [("title", .string "B"), ("properties", .object [
      ("x", .object [("type", .string "string")])])]),
    ("second", .object [("title", .string "P"), ("allOf", .array [
      .object [("$ref", .string "#/definitions/B")]])])])]),
  ("B", .object [("allOf", .array [
    .object [("$ref", .string "#/definitions/A/properties/first")]])])])]

theorem render_mutualBases : ∃ graph classes files,
    requestedClasses (.ofValue mutualBases) {} (.members "#/definitions" none) =
      .ok (graph, classes) ∧
    render (.ofValue mutualBases) {} .python (.members "#/definitions" none) = .ok files ∧
    graph.Imports {} 1 4 ∧ graph.Imports {} 4 1 := by
  have built : ((requestedClasses (.ofValue mutualBases) {}
      (.members "#/definitions" none)).toOption.any fun result =>
        decide (result.1.Imports {} 1 4 ∧ result.1.Imports {} 4 1)) &&
      (render (.ofValue mutualBases) {} .python
        (.members "#/definitions" none)).toOption.any fun _ => true := by
    decide +kernel
  obtain ⟨requested, rendered⟩ := Bool.and_eq_true_iff.1 built
  obtain ⟨result, run, imports⟩ := Except.exists_of_any requested
  obtain ⟨files, rendered, -⟩ := Except.exists_of_any rendered
  exact ⟨result.1, result.2, files, run, rendered, of_decide_eq_true imports⟩

/-- The classes of `mutualBases` depend on each other, and their modules import each other. -/
theorem imports_acyclic_iff_mutualBases : ∃ graph classes,
    requestedClasses (.ofValue mutualBases) {} (.members "#/definitions" none) =
      .ok (graph, classes) ∧
    graph.Imports {} 1 4 ∧
    ((∀ x, ¬Relation.TransGen (graph.Imports {}) x x) ↔
      ∀ x y, graph.Imports {} x y → graph.DependsLate x y →
        ¬Relation.ReflTransGen (graph.Imports {}) y x) := by
  obtain ⟨graph, classes, files, run, -, imports, -⟩ := render_mutualBases
  exact ⟨graph, classes, run, imports, imports_acyclic_iff (by decide) run⟩

/-- Two modules of a run that succeeds import each other when they are loaded. -/
theorem mutualBases_importCycle : ∃ graph classes files,
    requestedClasses (.ofValue mutualBases) {} (.members "#/definitions" none) =
      .ok (graph, classes) ∧
    render (.ofValue mutualBases) {} .python (.members "#/definitions" none) = .ok files ∧
    ∃ x, Relation.TransGen (graph.Imports {}) x x := by
  obtain ⟨graph, classes, files, run, rendered, imports, imports'⟩ := render_mutualBases
  exact ⟨graph, classes, files, run, rendered, 1, .tail (.single imports) imports'⟩

end SchemaClasses
