import SchemaClasses.Proofs.Build.Trees
import SchemaClasses.Proofs.Build.WellFormed
import SchemaClasses.Proofs.Emit.Construction

/-!
# Making objects along a chain of superclasses

A class and its superclasses share the making of an object. A constructor passes to that of the
superclass what that one has for parameters, and checks the properties that the class declares; a
method of Python goes on to that of the superclass if there is one. So each guard on a property is
checked once, by the class that declares the property, whichever bases are extended.

## Main definitions

* `Construction.checksMade`: the checks that are made along a chain of superclasses.
* `Context.Says`: what the text of a class says about making objects.
* `Context.Agree`: the constructions of a chain fit together.
* `Context.SharesConstruction`: how a class and its superclasses divide its properties and guards.

## Main statements

* `Run.sharesConstruction`: the classes of a run do so in every language.
-/

namespace SchemaClasses

def Context.inFile (context : Context) (id : ClassId) : Context :=
  { context with file := some (context.graph.topLevel id), body := none }

def Context.place (context : Context) (id : ClassId) : Context := (context.inFile id).within id

/-- The text of a class says how an object is made, besides what it says about the classes nested in
it. -/
def Context.Says (context : Context) (id : ClassId) (text : String) (construction : Construction) :
    Prop :=
  ∃ inner declaration,
    ((context.inFile id).nestedSections
      ((context.graph.get id).nested.map context.graph.tree)).Gives inner ∧
    declaration.text context.language = text ∧
    (context.place id).Constructs id inner declaration construction

namespace Construction

/-- The checks of a chain of constructors, nearest class first. A constructor runs that of the
superclass before its own checks, and without arguments if it does not say with which; this fails if
they are not the parameters. -/
def constructorChecks : List Construction → Option (List (Property × Guard))
  | [] => some []
  | construction :: above =>
    if construction.superCall?.getD [] = (above.head?.map (·.parameters)).getD [] then
      (constructorChecks above).map (· ++ construction.checks)
    else none

/-- The checks of the method that a chain has, nearest class first. The first method is run, which
goes on to the next one if it calls that; this fails if there is none. -/
def methodChecks : List Construction → Option (List (Property × Guard))
  | [] => none
  | construction :: above =>
    if construction.lines.isEmpty then methodChecks above
    else if construction.superCall?.isSome then
      (methodChecks above).map (· ++ construction.checks)
    else some construction.checks

/-- The checks that are made to make an object of the first class of a chain, in their order. In
Python there may be no method to run. -/
def checksMade (language : TargetLanguage) (chain : List Construction) :
    Option (List (Property × Guard)) :=
  match language with
  | .python => if chain.all (·.lines.isEmpty) then some [] else methodChecks chain
  | _ => constructorChecks chain

end Construction

/-- The constructions of a class and its superclasses fit together. -/
structure Context.Agree (context : Context) (id : ClassId)
    (constructions : ClassId → Construction) : Prop where
  /-- The arguments for the constructor of the superclass are its parameters. -/
  arguments : context.language ≠ .python → ∀ base, context.superclass? id = some base →
    (constructions id).superCall?.getD [] = (constructions base).parameters
  /-- Each guard on a property of the class, wherever in the chain it is written, is checked by one
  class of the chain. -/
  checked : ∀ property ∈ context.graph.allProperties id, ∀ place ∈ context.superclassChain id,
    ∀ guards, ((context.place place).writtenGuards property).Gives guards → ∀ guard ∈ guards,
      ∃! owner, owner ∈ context.superclassChain id ∧
        (property, guard) ∈ (constructions owner).checks
  /-- To make an object of the class, all these checks are made, those of the furthest class
  first. -/
  made : Construction.checksMade context.language
      ((context.superclassChain id).map constructions) =
    some ((context.superclassChain id).reverse.flatMap fun owner => (constructions owner).checks)
  /-- In Python the method calls that of the superclass when both have something to check. -/
  python : context.language = .python → ((constructions id).superCall?.isSome ↔
    (constructions id).checks ≠ [] ∧
      ∃ above ∈ (context.superclassChain id).tail, (constructions above).checks ≠ [])

/-- How a class and its superclasses divide its properties and the guards on them. -/
structure Context.SharesConstruction (context : Context) (id : ClassId) : Prop where
  /-- What the class inherits and what it declares are its properties. -/
  fields : (context.splitFields id).1 ++ (context.splitFields id).2 =
    context.graph.allProperties id
  /-- Each property is declared by one class of the chain. -/
  owner : ∀ property ∈ context.graph.allProperties id, ∃! owner,
    owner ∈ context.superclassChain id ∧ property ∈ (context.splitFields owner).2
  /-- What the texts of the classes of the chain say fits together. -/
  written : ∀ texts : ClassId → String,
    (∀ owner ∈ context.superclassChain id,
      ((context.inFile owner).classText (context.graph.tree owner)).Gives (texts owner)) →
    ∃ constructions : ClassId → Construction, context.Agree id constructions ∧
      ∀ owner ∈ context.superclassChain id,
        context.Says owner (texts owner) (constructions owner)

section

variable {context : Context} {id : ClassId}

theorem guardsOf_place (owner : ClassId) (property : Property) :
    (context.place owner).guardsOf property = context.guardsOf property := rfl

/-! ## One class -/

variable {inner : List Section} {declaration : Declaration} {construction : Construction}

theorem GuardedField.Writes.guardsOf_eq {field : GuardedField}
    (named : ∀ id, (boxed? (context.graph.get id).name).isSome = false)
    (h : field.Writes context) :
    context.guardsOf field.property = .ok (field.guards.map (·.1)) :=
  guardsOf_of_gives named h.guards

/-- A field has a line when it has a guard. -/
theorem GuardedField.Writes.lines_eq_nil_iff {field : GuardedField} (h : field.Writes context) :
    field.lines = [] ↔ field.checks = [] := by
  unfold GuardedField.lines GuardedField.checks
  rw [List.flatMap_eq_nil_iff, List.map_eq_nil_iff]
  constructor
  · intro empty
    refine List.eq_nil_iff_forall_not_mem.2 fun written mem => ?_
    obtain ⟨name, itemType, key?, -, gives⟩ := h.lines written mem
    exact ne_nil_of_gives_guardLines gives (empty written mem)
  · simp +contextual

theorem Context.Constructs.lines_eq_nil_iff
    (h : context.Constructs id inner declaration construction) :
    construction.lines = [] ↔ construction.checks = [] := by
  unfold Construction.lines Construction.checks
  rw [List.flatMap_eq_nil_iff, List.flatMap_eq_nil_iff]
  exact forall₂_congr fun field mem => (h.writes field mem).lines_eq_nil_iff

/-- What a class checks are the guards on the properties that it declares. -/
theorem Context.Constructs.mem_checks_iff
    (named : ∀ id, (boxed? (context.graph.get id).name).isSome = false)
    (h : context.Constructs id inner declaration construction) {property : Property}
    {guard : Guard} : (property, guard) ∈ construction.checks ↔
      property ∈ (context.splitFields id).2 ∧
        ∃ guards, context.guardsOf property = .ok guards ∧ guard ∈ guards := by
  unfold Construction.checks GuardedField.checks
  rw [← h.fields]
  constructor
  · intro mem
    obtain ⟨field, hfield, mem⟩ := List.mem_flatMap.1 mem
    obtain ⟨written, hwritten, eq⟩ := List.mem_map.1 mem
    obtain ⟨rfl, rfl⟩ := Prod.mk.inj eq
    exact ⟨List.mem_map_of_mem hfield, _, (h.writes field hfield).guardsOf_eq named,
      List.mem_map_of_mem hwritten⟩
  · rintro ⟨mem, guards, given, hguard⟩
    obtain ⟨field, hfield, rfl⟩ := List.mem_map.1 mem
    rw [(h.writes field hfield).guardsOf_eq named] at given
    obtain rfl := Except.ok.inj given
    obtain ⟨written, hwritten, rfl⟩ := List.mem_map.1 hguard
    exact List.mem_flatMap.2 ⟨field, hfield, List.mem_map.2 ⟨written, hwritten, rfl⟩⟩

/-- A class makes checks if a guard on one of its own properties is written. -/
theorem Context.Constructs.checks_ne_nil_iff
    (named : ∀ id, (boxed? (context.graph.get id).name).isSome = false)
    (h : context.Constructs id inner declaration construction) : construction.checks ≠ [] ↔
      ∃ property ∈ (context.splitFields id).2, ∃ guards,
        context.guardsOf property = .ok guards ∧ guards ≠ [] := by
  constructor
  · intro nonempty
    obtain ⟨⟨property, guard⟩, mem⟩ := List.exists_mem_of_ne_nil _ nonempty
    obtain ⟨declared, guards, given, hguard⟩ := (h.mem_checks_iff named).1 mem
    exact ⟨property, declared, guards, given, List.ne_nil_of_mem hguard⟩
  · rintro ⟨property, declared, guards, given, nonempty⟩
    obtain ⟨guard, hguard⟩ := List.exists_mem_of_ne_nil _ nonempty
    exact List.ne_nil_of_mem ((h.mem_checks_iff named).2 ⟨declared, guards, given, hguard⟩)

end

/-! ## Chains -/

structure Context.ConstructsChain (context : Context) (id : ClassId)
    (constructions : ClassId → Construction) : Prop where
  constructs : ∀ owner ∈ context.superclassChain id, ∃ inner declaration,
    (context.place owner).Constructs owner inner declaration (constructions owner)
  passes : ∀ owner ∈ context.superclassChain id,
    (context.place owner).Passes owner (constructions owner)

section

variable {context : Context} {id base : ClassId} {constructions : ClassId → Construction}

theorem Context.ConstructsChain.lines_eq_nil_iff (h : context.ConstructsChain id constructions)
    {owner : ClassId} (mem : owner ∈ context.superclassChain id) :
    (constructions owner).lines = [] ↔ (constructions owner).checks = [] := by
  obtain ⟨inner, declaration, constructs⟩ := h.constructs owner mem
  exact constructs.lines_eq_nil_iff

variable (bases : context.graph.Founded (·.base)) (inside : id < context.graph.size)
include bases inside

theorem mem_superclassChain_self : id ∈ context.superclassChain id := by
  rw [Context.superclassChain_eq bases inside]
  exact List.mem_cons_self

theorem superclassChain_of_superclass (found : context.superclass? id = some base) :
    context.superclassChain id = id :: context.superclassChain base := by
  rw [Context.superclassChain_eq bases inside, found]
  rfl

theorem superclassChain_of_none (none : context.superclass? id = none) :
    context.superclassChain id = [id] := by
  rw [Context.superclassChain_eq bases inside, none]
  rfl

theorem Context.ConstructsChain.above (h : context.ConstructsChain id constructions)
    (found : context.superclass? id = some base) : context.ConstructsChain base constructions := by
  have chain := superclassChain_of_superclass bases inside found
  exact ⟨fun owner mem => h.constructs owner (chain ▸ List.mem_cons_of_mem id mem),
    fun owner mem => h.passes owner (chain ▸ List.mem_cons_of_mem id mem)⟩

/-- The arguments for the constructor of the superclass are its parameters. -/
theorem Context.ConstructsChain.arguments_eq (h : context.ConstructsChain id constructions)
    (notPython : context.language ≠ .python) (found : context.superclass? id = some base) :
    (constructions id).superCall?.getD [] = (constructions base).parameters := by
  have lt := bases.lt_size (Context.base_of_superclass? found)
  have passed := (h.passes id (mem_superclassChain_self bases inside)).arguments notPython
  have taken := ((h.above bases inside found).passes base
    (mem_superclassChain_self bases lt)).parameters notPython
  have inherited : (context.splitFields id).1 = context.graph.allProperties base := by
    simp [Context.splitFields, found]
  have eq : (context.splitFields id).1.mapM (fieldName context.language) =
      .ok (constructions base).parameters := by
    rw [inherited, ← Context.splitFields_append bases lt]
    exact taken
  exact Except.ok.inj (passed.symm.trans eq)

/-- Constructors make the checks of all classes of a chain. -/
theorem Context.ConstructsChain.constructorChecks_eq (h : context.ConstructsChain id constructions)
    (notPython : context.language ≠ .python) :
    Construction.constructorChecks ((context.superclassChain id).map constructions) =
      some ((context.superclassChain id).reverse.flatMap fun owner =>
        (constructions owner).checks) := by
  induction bases.wellFounded.apply id with
  | intro id _ ih =>
    cases found : context.superclass? id with
    | none =>
      have passed := (h.passes id (mem_superclassChain_self bases inside)).arguments notPython
      have inherited : (context.splitFields id).1 = [] := inherited_eq_nil found
      have noArguments : (constructions id).superCall?.getD [] = [] := by
        have passed : (context.splitFields id).1.mapM (fieldName context.language) = _ := passed
        rw [inherited] at passed
        exact (Except.ok.inj passed).symm
      rw [superclassChain_of_none bases inside found]
      simp [Construction.constructorChecks, noArguments]
    | some base =>
      have isBase := Context.base_of_superclass? found
      have lt := bases.lt_size isBase
      have arguments := h.arguments_eq bases inside notPython found
      have above := ih base isBase lt (h.above bases inside found)
      rw [superclassChain_of_superclass bases inside found, List.map_cons,
        Construction.constructorChecks, above]
      rw [Context.superclassChain_eq bases lt]
      simp [arguments]

/-- A class of a chain makes checks when a property of the first class has guards. -/
theorem Context.ConstructsChain.exists_checks_iff (h : context.ConstructsChain id constructions)
    (named : ∀ id, (boxed? (context.graph.get id).name).isSome = false) :
    (∃ owner ∈ context.superclassChain id, (constructions owner).checks ≠ []) ↔
      ∃ property ∈ context.graph.allProperties id, ∃ guards,
        context.guardsOf property = .ok guards ∧ guards ≠ [] := by
  have checks (owner : ClassId) (mem : owner ∈ context.superclassChain id) :
      (constructions owner).checks ≠ [] ↔ ∃ property ∈ (context.splitFields owner).2, ∃ guards,
        context.guardsOf property = .ok guards ∧ guards ≠ [] := by
    obtain ⟨inner, declaration, constructs⟩ := h.constructs owner mem
    exact @Context.Constructs.checks_ne_nil_iff (context.place owner) _ _ _ _ named constructs
  rw [← Context.flatMap_own bases inside]
  constructor
  · rintro ⟨owner, mem, nonempty⟩
    obtain ⟨property, declared, guarded⟩ := (checks owner mem).1 nonempty
    exact ⟨property, List.mem_flatMap.2 ⟨owner, List.mem_reverse.2 mem, declared⟩, guarded⟩
  · rintro ⟨property, mem, guarded⟩
    obtain ⟨owner, mem, declared⟩ := List.mem_flatMap.1 mem
    have mem := List.mem_reverse.1 mem
    exact ⟨owner, mem, (checks owner mem).2 ⟨property, declared, guarded⟩⟩

/-- The method of a class calls that of the superclass when both have something to check. -/
theorem Context.ConstructsChain.calls_iff (h : context.ConstructsChain id constructions)
    (python : context.language = .python)
    (named : ∀ id, (boxed? (context.graph.get id).name).isSome = false) :
    (constructions id).superCall?.isSome ↔ (constructions id).checks ≠ [] ∧
      ∃ above ∈ (context.superclassChain id).tail, (constructions above).checks ≠ [] := by
  have self := mem_superclassChain_self bases inside
  rw [(h.passes id self).python python, Ne, h.lines_eq_nil_iff self]
  refine and_congr_right fun _ => ?_
  change (∃ property ∈ (context.splitFields id).1, _) ↔ _
  cases found : context.superclass? id with
  | none =>
    rw [superclassChain_of_none bases inside found, inherited_eq_nil found]
    simp
  | some base =>
    have lt := bases.lt_size (Context.base_of_superclass? found)
    rw [superclassChain_of_superclass bases inside found, List.tail_cons,
      (h.above bases inside found).exists_checks_iff bases lt named]
    simp [Context.splitFields, found, guardsOf_place]

/-- If there is a method along a chain, it makes the checks of all classes. -/
theorem Context.ConstructsChain.methodChecks_eq (h : context.ConstructsChain id constructions)
    (python : context.language = .python)
    (named : ∀ id, (boxed? (context.graph.get id).name).isSome = false)
    (some : ∃ owner ∈ context.superclassChain id, (constructions owner).checks ≠ []) :
    Construction.methodChecks ((context.superclassChain id).map constructions) =
      .some ((context.superclassChain id).reverse.flatMap fun owner =>
        (constructions owner).checks) := by
  induction bases.wellFounded.apply id with
  | intro id _ ih =>
    have self := mem_superclassChain_self bases inside
    have calls := h.calls_iff bases inside python named
    have quiet := h.lines_eq_nil_iff self
    cases found : context.superclass? id with
    | none =>
      rw [superclassChain_of_none bases inside found] at some calls ⊢
      simp_all [Construction.methodChecks]
    | some base =>
      have isBase := Context.base_of_superclass? found
      have lt := bases.lt_size isBase
      have above := ih base isBase lt (h.above bases inside found)
      rw [superclassChain_of_superclass bases inside found] at some calls ⊢
      rw [List.exists_mem_cons_iff] at some
      rw [List.map_cons, Construction.methodChecks, List.reverse_cons, List.flatMap_append,
        List.flatMap_singleton]
      by_cases loud : ∃ owner ∈ context.superclassChain base, (constructions owner).checks ≠ []
      · rw [above loud]
        by_cases empty : (constructions id).checks = []
        · simp [quiet.2 empty, empty]
        · simp [quiet.not.2 empty, calls.2 ⟨empty, loud⟩]
      · -- No class above makes a check, and so the method does not go on.
        have own := some.resolve_right loud
        have last : ¬(constructions id).superCall?.isSome := fun called => loud (calls.1 called).2
        have silent : ∀ owner ∈ context.superclassChain base,
            (constructions owner).checks = [] := by
          simpa using loud
        simpa [quiet.not.2 own, last] using silent

/-- To make an object of a class, the checks of all classes of its chain are made. -/
theorem Context.ConstructsChain.checksMade_eq (h : context.ConstructsChain id constructions)
    (named : ∀ id, (boxed? (context.graph.get id).name).isSome = false) :
    Construction.checksMade context.language ((context.superclassChain id).map constructions) =
      .some ((context.superclassChain id).reverse.flatMap fun owner =>
        (constructions owner).checks) := by
  cases language : context.language with
  | kotlin => exact h.constructorChecks_eq bases inside (by simp [language])
  | java => exact h.constructorChecks_eq bases inside (by simp [language])
  | python =>
    unfold Construction.checksMade
    simp only
    split
    · rename_i silent
      have silent : ∀ owner ∈ context.superclassChain id, (constructions owner).checks = [] := by
        intro owner mem
        have empty := List.all_eq_true.1 silent _ (List.mem_map_of_mem mem)
        exact (h.lines_eq_nil_iff mem).1 (by simpa using empty)
      simpa using silent
    · rename_i loud
      refine h.methodChecks_eq bases inside language named ?_
      simp only [List.all_map, List.all_eq_true, not_forall] at loud
      obtain ⟨owner, mem, nonempty⟩ := loud
      exact ⟨owner, mem, fun empty => nonempty (by simpa using (h.lines_eq_nil_iff mem).2 empty)⟩

/-- The constructions of the classes of a chain fit together. -/
theorem Context.ConstructsChain.agree (h : context.ConstructsChain id constructions)
    (named : ∀ id, (boxed? (context.graph.get id).name).isSome = false)
    (distinct : DistinctNames (context.graph.allProperties id)) :
    context.Agree id constructions where
  arguments notPython base found := h.arguments_eq bases inside notPython found
  checked property mem place _ guards given guard hguard := by
    have given : context.guardsOf property = .ok guards :=
      @guardsOf_of_gives (context.place place) named _ _ given
    have checks {owner : ClassId} (mem : owner ∈ context.superclassChain id) :
        (property, guard) ∈ (constructions owner).checks ↔
          property ∈ (context.splitFields owner).2 := by
      obtain ⟨inner, declaration, constructs⟩ := h.constructs owner mem
      rw [@Context.Constructs.mem_checks_iff (context.place owner) _ _ _ _ named constructs]
      exact and_iff_left ⟨guards, given, hguard⟩
    obtain ⟨owner, ⟨hmem, declared⟩, only⟩ :=
      Context.existsUnique_owner bases inside distinct property mem
    exact ⟨owner, ⟨hmem, (checks hmem).2 declared⟩,
      fun other ⟨hother, also⟩ => only other ⟨hother, (checks hother).1 also⟩⟩
  made := h.checksMade_eq bases inside named
  python python := h.calls_iff bases inside python named

end

/-! ## Runs -/

section

variable {document package : Value} {registered : List Definition}
  {returned : List (Definition × ClassId)} {succeeded : Bool} {s : BuildState} {context : Context}
  {id : ClassId}

/-- The name of a class is not a type without a null. -/
theorem BuildState.Sound.boxed?_name {source : Source} (h : s.Sound source) (id : ClassId) :
    (boxed? (s.graph.get id).name).isSome = false := by
  by_cases inside : id < s.graph.size
  · exact (h.outermost.name inside).boxed?_eq_none
  · rw [ClassGraph.get_of_size_le (Nat.le_of_not_lt inside)]
    rfl

/-- A plain class has no properties. -/
theorem BuildState.Sound.allProperties_of_plain {source : Source} (h : s.Sound source)
    (inside : id < s.graph.size) (plain : (s.graph.get id).kind = .plain) :
    s.graph.allProperties id = [] := by
  rcases h.composition.kind inside (.inl plain) with blank | kind
  · rw [blank.kind] at plain
    cases plain
  · exact kindFor_eq_plain_iff.1 (kind.symm.trans plain)

/-- In every language, the classes of a run divide their properties with their superclasses, and
their constructors fit together: each guard on a property of a class is checked once when an object
of it is made, whichever of its bases are extended. -/
theorem Run.sharesConstruction (distinct : document.distinctKeys)
    (run : Run ⟨.ofValue document, package⟩ registered returned succeeded s)
    (graph : context.graph = s.graph) (inside : id < s.graph.size) :
    context.SharesConstruction id := by
  have sound := (run.invariant distinct rfl).sound
  have bases : context.graph.Founded (·.base) := graph ▸ sound.composition.founded
  have inside : id < context.graph.size := graph ▸ inside
  have isTree (id : ClassId) : context.graph.tree id =
      .node id ((context.graph.get id).nested.map context.graph.tree) := by
    rw [graph, sound.nesting.tree_eq]
  have named (id : ClassId) : (boxed? (context.graph.get id).name).isSome = false :=
    graph ▸ sound.boxed?_name id
  have distinctNames : DistinctNames (context.graph.allProperties id) := by
    rw [graph] at inside ⊢
    exact sound.composition.distinct inside
  refine ⟨Context.splitFields_append bases inside,
    Context.existsUnique_owner bases inside distinctNames, fun texts given => ?_⟩
  have each (owner : ClassId) (mem : owner ∈ context.superclassChain id) :
      ∃ construction, context.Says owner (texts owner) construction ∧
        (context.place owner).Passes owner construction := by
    have lt := Context.lt_size_of_mem_superclassChain bases inside mem
    have plain (kind : (context.graph.get owner).kind = .plain) :
        (context.splitFields owner).2 = [] := by
      have all := Context.splitFields_append bases lt
      rw [graph] at kind lt all
      rw [sound.allProperties_of_plain lt kind] at all
      exact (List.append_eq_nil_iff.1 all).2
    have written := given owner mem
    rw [isTree, Context.classText, Context.declarationText_eq] at written
    obtain ⟨declaration, declares, text⟩ := written.of_map
    obtain ⟨inner, construction, isInner, constructs, passes⟩ :=
      @Context.exists_constructs (context.place owner) _ _ _ named plain declares
    exact ⟨construction, ⟨inner, declaration, isInner, text, constructs⟩, passes⟩
  have some : Nonempty Construction := ⟨⟨[], none, []⟩⟩
  choose! constructions said passes using each
  refine ⟨constructions, Context.ConstructsChain.agree bases inside ⟨fun owner mem => ?_, passes⟩
    named distinctNames, said⟩
  obtain ⟨inner, declaration, -, -, constructs⟩ := said owner mem
  exact ⟨inner, declaration, constructs⟩

/-- A document with a choice whose alternatives share a property. -/
def accounts : Value := .object [
  ("title", .string "Account"),
  ("properties", .object [("owner", .object [("type", .string "string"), ("minLength", .int 1)])]),
  ("required", .array [.string "owner"]),
  ("oneOf", .array [
    .object [("title", .string "Savings"), ("properties", .object [
      ("rate", .object [("type", .string "number"), ("minimum", .int 0)])])],
    .object [("title", .string "Checking"), ("properties", .object [
      ("overdraft", .object [("type", .string "boolean")])])]])]

theorem Run.sharesConstruction_accounts : ∃ id s,
    buildRoot ⟨.ofValue accounts, .string ""⟩ (.ofValue accounts) none {} = .ok id s ∧
    ∀ language ∈ TargetLanguage.all, ∃ context : Context, context.graph = s.graph ∧
      context.language = language ∧ 1 < s.graph.size ∧ context.superclassChain 1 = [1, 0] ∧
      context.SharesConstruction 1 ∧ ∃ constructions, context.Agree 1 constructions := by
  let context (graph : ClassGraph) (language : TargetLanguage) : Context :=
    { graph, settings := {}, language }
  let writes (context : Context) (owner : ClassId) : Bool :=
    (((context.inFile owner).classText (context.graph.tree owner)).run' {}).isSome
  have built : ((buildRoot ⟨.ofValue accounts, .string ""⟩ (.ofValue accounts) none >>=
      fun _ => get).run' {}).any fun s => s.graph.size == 3 && TargetLanguage.all.all
        fun language => (context s.graph language).superclassChain 1 == [1, 0] &&
          writes (context s.graph language) 1 && writes (context s.graph language) 0 := by
    decide +kernel
  obtain ⟨id, s, run, test⟩ := Build.exists_of_any built
  simp only [Bool.and_eq_true, beq_iff_eq, List.all_eq_true] at test
  obtain ⟨size, each⟩ := test
  have inside : 1 < s.graph.size := by simp [size]
  refine ⟨id, s, run, fun language mem => ⟨context s.graph language, rfl, rfl, inside, ?_⟩⟩
  obtain ⟨⟨chain, first⟩, second⟩ := each language mem
  have shares := Run.sharesConstruction (by decide : accounts.distinctKeys) (.root run)
    (rfl : (context s.graph language).graph = s.graph) inside
  obtain ⟨variant, isVariant⟩ := Emit.exists_gives_of_isSome first
  obtain ⟨base, isBase⟩ := Emit.exists_gives_of_isSome second
  obtain ⟨constructions, agree, -⟩ := shares.written
    (fun owner => if owner = 1 then variant else base) (by simpa [chain] using ⟨isVariant, isBase⟩)
  exact ⟨chain, shares, constructions, agree⟩

end

end SchemaClasses
