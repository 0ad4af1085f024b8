import Mathlib.Logic.Relation
import SchemaClasses.Proofs.Build.Effects
import SchemaClasses.Proofs.Build.Schemas

/-!
# The steps of a build

A build changes its state in few ways: it declares a class, it fills a class that it has declared
itself, it declares an enum, and it takes pointers into progress and out of it. Each step comes with
what the builders have checked when they take it.

## Main definitions

* `ClassGraph.HasVariants`: the alternatives of a choice have been declared in its open base.
* `ClassGraph.BaseFirst`: a base was declared before what stands in the class that extends it.
* `BuildState.IsActive`: the class that is being built.
* `Filling`: the ways to change a class.
* `Step`, `Steps`: the steps of a build that fills no class before a given one.
* `Kept`: what steps leave alone.

## Main statements

* `Steps.kept`: steps leave classes alone that were declared before.
-/

namespace SchemaClasses

/-! ## Filling a class -/

structure ClassModel.Blank (model : ClassModel) : Prop where
  kind : model.kind = .data
  properties : model.properties = []
  base : model.base = none
  built : model.built = false

def DistinctNames (properties : List Property) : Prop := (properties.map (·.name)).Nodup

def ClassGraph.HasVariants (root : Node) (graph : ClassGraph) (id : ClassId) : Prop :=
  ∀ {choice alternative : Node}, root.HasAlternative choice alternative →
    (graph.get id).path = choice.path → ∃ variant, (graph.get variant).kind = .nestedVariant ∧
      (graph.get variant).base = some id ∧ (graph.get variant).path = alternative.path

/-- A base stands in the class that extends it, or it was declared, like the bases that it has
itself, before all classes in that class. -/
def ClassGraph.BaseFirst (graph : ClassGraph) (id base : ClassId) : Prop :=
  (graph.get base).enclosing = some id ∨ ∀ inner, (graph.get inner).enclosing = some id →
    ∀ ancestor ∈ graph.lineage base, ancestor < inner

/-- What a class of a graph can be changed to: it becomes an open base and gets the properties that
its alternatives share, it becomes an alternative with its properties, it gets properties, with a
base or without, and it becomes complete, which an open base does with all its alternatives. -/
inductive Filling (source : Source) (graph : ClassGraph) (id : ClassId) : ClassModel → Prop
  | openBase (blank : (graph.get id).Blank) :
      Filling source graph id { graph.get id with kind := .openBase }
  | share {properties : List Property} (kind : (graph.get id).kind = .openBase)
      (childless : ∀ other, (graph.get other).base ≠ some id)
      (distinct : DistinctNames properties) :
      Filling source graph id { graph.get id with properties }
  | variant {base : ClassId} {properties : List Property}
      (kind : (graph.get id).kind = .nestedVariant) (isBase : (graph.get id).base = some base)
      (distinct : DistinctNames (graph.allProperties base ++ properties)) :
      Filling source graph id { graph.get id with properties, built := true }
  | plain {properties : List Property} (blank : (graph.get id).Blank)
      (distinct : DistinctNames properties) :
      Filling source graph id { graph.get id with properties, kind := kindFor properties }
  | extend {node : Node} {base : ClassId} {own : List Property} (blank : (graph.get id).Blank)
      (within : source.root.Within node) (path : (graph.get id).path = node.path)
      (isExtension : node.has "allOf") (complete : (graph.get base).built)
      (closed : (graph.get base).kind ≠ .openBase ∧ (graph.get base).kind ≠ .nestedVariant)
      (order : graph.BaseFirst id base)
      (distinct : DistinctNames (graph.allProperties base ++ own)) :
      Filling source graph id { graph.get id with
        base := some base, properties := own, kind := kindFor (graph.allProperties base ++ own) }
  | complete (filled : ¬(graph.get id).Blank) (kind : (graph.get id).kind ≠ .nestedVariant)
      (variants : (graph.get id).kind = .openBase → graph.HasVariants source.root id) :
      Filling source graph id { graph.get id with built := true }

def variantClass (package : Value) (name path : String) (base : ClassId) : ClassModel :=
  { name, package, enclosing := some base, kind := .nestedVariant, base := some base, path }

/-! ## Steps -/

/-- The class that is being built: it is not complete, and all classes declared after it are. -/
structure BuildState.IsActive (s : BuildState) (id : ClassId) : Prop where
  inside : id < s.graph.size
  pending : ¬(s.graph.get id).built
  later : ∀ other, id < other → other < s.graph.size → (s.graph.get other).built

/-- What leads to the class of a schema: the class being built, which refers to it, or the name that
is pinned to it. -/
def BuildState.LeadsTo (s : BuildState) (path : String) : Option ClassId → Prop
  | some referrer => s.IsActive referrer
  | none => (s.pinned.lookup path).isSome

theorem BuildState.LeadsTo.active {s : BuildState} {path : String} {referencing : Option ClassId}
    (h : s.LeadsTo path referencing) : ∀ referrer ∈ referencing, s.IsActive referrer := by
  intro referrer mem
  obtain rfl := Option.mem_def.1 mem
  exact h

/-- A step of a build that fills no class before `floor`. -/
inductive Step (source : Source) (floor : ClassId) (s : BuildState) : BuildState → Prop
  | progress (inProgress : List String) : Step source floor s { s with inProgress }
  | declare {node : Node} {fallback name : String} {referencing enclosing : Option ClassId}
      {reserved : ReservedNames} (reached : source.root.Reached node)
      (isClass : isClassSchema node true = .ok true) (fresh : s.classOf.lookup node.path = none)
      (leads : s.LeadsTo node.path referencing)
      (placed : s.placement node fallback referencing = .ok (name, enclosing, reserved))
      (inside : ∀ outer ∈ enclosing, outer < s.graph.size) :
      Step source floor s (s.begin reserved (blankClass source node name enclosing) referencing)
  | variant {choice alternative : Node} {base : ClassId} {name : String} (owned : floor ≤ base)
      (active : s.IsActive base) (kind : (s.graph.get base).kind = .openBase)
      (path : (s.graph.get base).path = choice.path)
      (isAlternative : source.root.HasAlternative choice alternative) (named : IsClassName name)
      (free : s.graph.isFreeIn base name)
      (fresh : ∀ other, (s.graph.get other).base = some base →
        (s.graph.get other).path ≠ alternative.path) :
      Step source floor s
        (s.declare (variantClass (s.graph.get base).package name alternative.path base))
  | fill {id : ClassId} {f : ClassModel → ClassModel} (owned : floor ≤ id)
      (active : s.IsActive id) (filling : Filling source s.graph id (f (s.graph.get id))) :
      Step source floor s (s.change id f)
  | enum {owner : ClassId} {definition : EnumDef} (active : s.IsActive owner)
      (owned : definition.owner = owner) (named : IsClassName definition.name)
      (free : s.graph.isFreeIn owner definition.name) :
      Step source floor s
        (s.change owner fun model => { model with enums := model.enums ++ [definition] })

abbrev Steps (source : Source) (floor : ClassId) : BuildState → BuildState → Prop :=
  Relation.ReflTransGen (Step source floor)

theorem Steps.of_le {source : Source} {floor floor' : ClassId} {s s' : BuildState}
    (h : Steps source floor' s s') (le : floor ≤ floor') : Steps source floor s s' := by
  refine Relation.ReflTransGen.mono (fun s s' step => ?_) _ _ h
  cases step with
  | progress inProgress => exact .progress inProgress
  | declare reached isClass fresh leads placed inside =>
    exact .declare reached isClass fresh leads placed inside
  | variant owned active kind path isAlternative named free fresh =>
    exact .variant (Nat.le_trans le owned) active kind path isAlternative named free fresh
  | fill owned active filling => exact .fill (Nat.le_trans le owned) active filling
  | enum active owned named free => exact .enum active owned named free

/-! ## Frames -/

/-- Two classes agree in what is fixed when a class is declared. -/
structure ClassModel.SameDeclaration (model model' : ClassModel) : Prop where
  name : model'.name = model.name
  package : model'.package = model.package
  enclosing : model'.enclosing = model.enclosing
  path : model'.path = model.path

/-- Two classes agree in what a class is filled with. -/
structure ClassModel.SameContent (model model' : ClassModel) : Prop where
  kind : model'.kind = model.kind
  properties : model'.properties = model.properties
  base : model'.base = model.base
  built : model'.built = model.built

theorem ClassModel.Blank.of_same {model model' : ClassModel} (h : model.Blank)
    (same : model.SameContent model') : model'.Blank :=
  ⟨same.kind.trans h.kind, same.properties.trans h.properties, same.base.trans h.base,
    same.built.trans h.built⟩

/-- Declaring a class changes what is nested in another one, if at all. -/
theorem BuildState.declare_same (s : BuildState) {model : ClassModel}
    (inside : ∀ outer ∈ model.enclosing, outer < s.graph.size) {id : ClassId}
    (ne : id ≠ s.graph.size) :
    (s.graph.get id).SameDeclaration ((s.declare model).graph.get id) ∧
      (s.graph.get id).SameContent ((s.declare model).graph.get id) := by
  rw [s.declare_get_of_ne inside ne]
  exact ⟨⟨rfl, rfl, rfl, rfl⟩, rfl, rfl, rfl, rfl⟩

/-- What the steps of a build keep that fills no class before `floor`. -/
structure Kept (floor : ClassId) (s s' : BuildState) : Prop where
  size_le : s.graph.size ≤ s'.graph.size
  declaration : ∀ {id}, id < s.graph.size →
    (s.graph.get id).SameDeclaration (s'.graph.get id)
  content : ∀ {id}, id < s.graph.size → id < floor →
    (s.graph.get id).SameContent (s'.graph.get id)
  built : ∀ {id}, (s.graph.get id).built → (s'.graph.get id).built
  /-- A class that is not complete gets no children but by the build that fills it. -/
  childless : ∀ {id other}, id < s.graph.size → id < floor → ¬(s.graph.get id).built →
    (s'.graph.get other).base = some id → (s.graph.get other).base = some id
  pinned : s'.pinned = s.pinned

namespace Kept

variable {floor : ClassId} {s s' s'' : BuildState}

theorem of_graph_eq (floor : ClassId) (graph : s'.graph = s.graph) (pinned : s'.pinned = s.pinned) :
    Kept floor s s' where
  size_le := Nat.le_of_eq (by rw [graph])
  declaration _ := by
    rw [graph]
    exact ⟨rfl, rfl, rfl, rfl⟩
  content _ _ := by
    rw [graph]
    exact ⟨rfl, rfl, rfl, rfl⟩
  built := by simp [graph]
  childless _ _ _ := by simp [graph]
  pinned := pinned

theorem refl (floor : ClassId) (s : BuildState) : Kept floor s s := .of_graph_eq floor rfl rfl

theorem trans (h : Kept floor s s') (h' : Kept floor s' s'') : Kept floor s s'' where
  size_le := Nat.le_trans h.size_le h'.size_le
  declaration inside := by
    have first := h.declaration inside
    have second := h'.declaration (Nat.lt_of_lt_of_le inside h.size_le)
    exact ⟨second.name.trans first.name, second.package.trans first.package,
      second.enclosing.trans first.enclosing, second.path.trans first.path⟩
  content inside below := by
    have first := h.content inside below
    have second := h'.content (Nat.lt_of_lt_of_le inside h.size_le) below
    exact ⟨second.kind.trans first.kind, second.properties.trans first.properties,
      second.base.trans first.base, second.built.trans first.built⟩
  built complete := h'.built (h.built complete)
  childless inside below pending child := by
    have same := (h.content inside below).built
    refine h.childless inside below pending (h'.childless ?_ below ?_ child)
    · exact Nat.lt_of_lt_of_le inside h.size_le
    · rwa [same]
  pinned := h'.pinned.trans h.pinned

/-- Declaring a class keeps the other ones, but for the classes nested in them. -/
theorem declare {model : ClassModel} (inside : ∀ outer ∈ model.enclosing, outer < s.graph.size)
    (base : ∀ base ∈ model.base, floor ≤ base) : Kept floor s (s.declare model) where
  size_le := by simp
  declaration lt := (s.declare_same inside (Nat.ne_of_lt lt)).1
  content lt _ := (s.declare_same inside (Nat.ne_of_lt lt)).2
  built {id} complete := by
    by_cases eq : id = s.graph.size
    · rw [ClassGraph.get_of_size_le (Nat.le_of_eq eq.symm)] at complete
      cases complete
    · rwa [s.declare_get_of_ne inside eq]
  childless {id other} _ below _ child := by
    by_cases eq : other = s.graph.size
    · rw [eq, s.declare_get_size inside] at child
      exact absurd below (Nat.not_lt.2 (base id child))
    · rwa [s.declare_get_of_ne inside eq] at child
  pinned := rfl

end Kept

theorem Filling.sameDeclaration {source : Source} {graph : ClassGraph} {id : ClassId}
    {model : ClassModel} (h : Filling source graph id model) :
    (graph.get id).SameDeclaration model ∧ model.nested = (graph.get id).nested ∧
      model.enums = (graph.get id).enums ∧ ((graph.get id).built → model.built) := by
  cases h <;> exact ⟨⟨rfl, rfl, rfl, rfl⟩, rfl, rfl, by simp⟩

theorem Filling.base_built {source : Source} {graph : ClassGraph} {id base : ClassId}
    {model : ClassModel} (h : Filling source graph id model) (isBase : model.base = some base) :
    (graph.get id).base = some base ∨ (graph.get base).built := by
  cases h with
  | extend _ _ _ _ complete => exact .inr (Option.some.inj isBase ▸ complete)
  | _ => exact .inl isBase

/-! ## Steps that declare no class -/

/-- Two states have the same classes at the same places, and the same names taken. -/
structure SameShape (s s' : BuildState) : Prop where
  size : s'.graph.size = s.graph.size
  declaration : ∀ id, (s.graph.get id).SameDeclaration (s'.graph.get id)
  nested : ∀ id, (s'.graph.get id).nested = (s.graph.get id).nested
  classOf : s'.classOf = s.classOf
  pinned : s'.pinned = s.pinned
  topLevel : s'.topLevel = s.topLevel
  reserved : s'.reserved = s.reserved

theorem SameShape.progress (s : BuildState) (inProgress : List String) :
    SameShape s { s with inProgress } :=
  ⟨rfl, fun _ => ⟨rfl, rfl, rfl, rfl⟩, fun _ => rfl, rfl, rfl, rfl, rfl⟩

/-- A change that keeps the declaration of a class and what is nested in it keeps the shape of the
state. -/
theorem SameShape.change {s : BuildState} {id : ClassId} {f : ClassModel → ClassModel}
    (inside : id < s.graph.size)
    (declaration : (s.graph.get id).SameDeclaration (f (s.graph.get id)))
    (nested : (f (s.graph.get id)).nested = (s.graph.get id).nested) :
    SameShape s (s.change id f) where
  size := by simp
  declaration other := by
    by_cases eq : other = id
    · subst eq
      rwa [s.change_get_self inside]
    · rw [s.change_get_of_ne eq]
      exact ⟨rfl, rfl, rfl, rfl⟩
  nested other := by
    by_cases eq : other = id
    · subst eq
      rwa [s.change_get_self inside]
    · rw [s.change_get_of_ne eq]
  classOf := rfl
  pinned := rfl
  topLevel := rfl
  reserved := rfl

theorem SameShape.fill {source : Source} {id : ClassId} {f : ClassModel → ClassModel}
    {s : BuildState} (inside : id < s.graph.size)
    (filling : Filling source s.graph id (f (s.graph.get id))) : SameShape s (s.change id f) :=
  .change inside filling.sameDeclaration.1 filling.sameDeclaration.2.1

theorem SameShape.enum {owner : ClassId} {definition : EnumDef} {s : BuildState}
    (inside : owner < s.graph.size) : SameShape s
      (s.change owner fun model => { model with enums := model.enums ++ [definition] }) :=
  .change inside ⟨rfl, rfl, rfl, rfl⟩ rfl

/-! ## What steps keep -/

/-- Filling a class from `floor` on keeps the classes before it. -/
theorem Kept.fill {source : Source} {floor id : ClassId} {f : ClassModel → ClassModel}
    {s : BuildState} (owned : floor ≤ id) (inside : id < s.graph.size)
    (filling : Filling source s.graph id (f (s.graph.get id))) : Kept floor s (s.change id f) where
  size_le := by simp
  declaration {other} _ := (SameShape.fill inside filling).declaration other
  content {other} _ below := by
    rw [s.change_get_of_ne (Nat.ne_of_lt (Nat.lt_of_lt_of_le below owned))]
    exact ⟨rfl, rfl, rfl, rfl⟩
  built {other} complete := by
    by_cases eq : other = id
    · subst eq
      rw [s.change_get_self inside]
      exact filling.sameDeclaration.2.2.2 complete
    · rwa [s.change_get_of_ne eq]
  childless {base other} _ _ pending child := by
    by_cases eq : other = id
    · subst eq
      rw [s.change_get_self inside] at child
      exact (filling.base_built child).resolve_right pending
    · rwa [s.change_get_of_ne eq] at child
  pinned := rfl

/-- The class being built is so still when it is filled and is not complete then. -/
theorem BuildState.IsActive.change {s : BuildState} {id : ClassId} (h : s.IsActive id)
    {f : ClassModel → ClassModel} (built : (f (s.graph.get id)).built = (s.graph.get id).built) :
    (s.change id f).IsActive id where
  inside := by
    rw [s.change_size]
    exact h.inside
  pending := by
    rw [s.change_get_self h.inside, built]
    exact h.pending
  later other lt inside := by
    rw [s.change_size] at inside
    rw [s.change_get_of_ne (Nat.ne_of_gt lt)]
    exact h.later other lt inside

/-- Declaring an enum changes only the enums of its owner. -/
theorem BuildState.change_enums_get (s : BuildState) {owner : ClassId} (definition : EnumDef)
    (inside : owner < s.graph.size) (id : ClassId) : ∃ enums,
      (s.change owner fun model => { model with
        enums := model.enums ++ [definition] }).graph.get id = { s.graph.get id with enums } := by
  by_cases eq : id = owner
  · subst eq
    exact ⟨_, s.change_get_self inside _⟩
  · exact ⟨_, s.change_get_of_ne eq _⟩

/-- Declaring an enum fills no class. -/
theorem Kept.enum {floor owner : ClassId} {definition : EnumDef} {s : BuildState}
    (inside : owner < s.graph.size) :
    Kept floor s (s.change owner fun model => { model with
      enums := model.enums ++ [definition] }) := by
  have same := s.change_enums_get definition inside
  constructor
  · simp
  · intro id _
    obtain ⟨enums, eq⟩ := same id
    rw [eq]
    exact ⟨rfl, rfl, rfl, rfl⟩
  · intro id _ _
    obtain ⟨enums, eq⟩ := same id
    rw [eq]
    exact ⟨rfl, rfl, rfl, rfl⟩
  · intro id complete
    obtain ⟨enums, eq⟩ := same id
    rwa [eq]
  · intro id other _ _ _ child
    obtain ⟨enums, eq⟩ := same other
    rwa [eq] at child
  · rfl

theorem Step.kept {source : Source} {floor : ClassId} {s s' : BuildState}
    (h : Step source floor s s') : Kept floor s s' := by
  cases h with
  | progress inProgress => exact .of_graph_eq floor rfl rfl
  | declare _ _ _ _ _ inside =>
    refine .trans (.declare inside fun _ h => ?_) (.of_graph_eq floor
      (BuildState.begin_graph _ _ _ _) (BuildState.begin_pinned _ _ _ _))
    cases h
  | variant owned active =>
    exact .declare (by simpa [variantClass] using active.inside) (by simpa [variantClass])
  | fill owned active filling => exact .fill owned active.inside filling
  | enum active => exact .enum active.inside

/-- Steps leave classes alone that were declared before. -/
theorem Steps.kept {source : Source} {floor : ClassId} {s s' : BuildState}
    (h : Steps source floor s s') : Kept floor s s' := by
  induction h with
  | refl => exact .refl floor s
  | tail _ step ih => exact ih.trans step.kept

end SchemaClasses
