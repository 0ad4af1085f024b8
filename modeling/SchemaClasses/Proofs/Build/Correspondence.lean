import SchemaClasses.Proofs.Build.ReadingBuilders
import SchemaClasses.Proofs.Build.Trees
import SchemaClasses.Proofs.Model.Renaming

/-!
# The classes of the same schemas in two runs

Two runs over the same document may build different classes, in different order, and place them
differently. Where they give the schemas that a class draws on a class each, with the same names and
in the same places, the one run has a copy of what the other one has.

## Main definitions

* `ClassGraph.shown`, `ClassGraph.named`: the classes that a class at the top level draws on.
* `ClassGraph.Matches`: two classes of the same schema have the same name and place.
* `ClassGraph.PlacesAlike`: what a class draws on has the same names and places in another graph.

## Main statements

* `BuildState.Complete.copied`: then the other graph has a copy of it.
-/

namespace SchemaClasses

variable {f : ClassId → ClassId}

/-! ## Readings of the same schema -/

/-- Another graph has the class of a schema where a renaming leads to. -/
def ClassGraph.Leads (graph' graph : ClassGraph) (f : ClassId → ClassId) (id : ClassId) : Prop :=
  ∀ {path other}, graph.HasPath id path → graph'.HasPath other path → other = f id

theorem constraintsFor_rename (f : ClassId → ClassId) (node : Node) (type : TypeRef) :
    constraintsFor node (type.rename f) = constraintsFor node type := by
  cases type <;> rfl

theorem isDefaultFor_rename (f : ClassId → ClassId) (type : TypeRef) (value : Value) :
    isDefaultFor (type.rename f) value = isDefaultFor type value := by
  cases type <;> cases value <;> rfl

theorem propertyDefault_rename (f : ClassId → ClassId) (node : Node) (type : TypeRef)
    (isRequired : Bool) :
    propertyDefault node (type.rename f) isRequired = propertyDefault node type isRequired := by
  unfold propertyDefault
  simp only [isDefaultFor_rename]

theorem rename_of_primitiveType {name : String} {format : Value} {type : TypeRef}
    (h : primitiveType name format = .ok type) : type.rename f = type := by
  obtain ⟨kind, rfl⟩ := eq_primitive_of_primitiveType h
  rfl

theorem find?_rename (f : ClassId → ClassId) (enums : List EnumDef) (path : String) :
    (enums.map (·.rename f)).find? (·.path = path) =
      (enums.find? (·.path = path)).map (·.rename f) := by
  rw [List.find?_map]
  rfl

section

variable {graph graph' : ClassGraph} {root node : Node} {owner : ClassId} {nameHint : String}

/-- The types of a schema in two graphs are the same up to the numbers of classes. The induction is
on the reading in the first graph; the form of the schema decides how it is read in the second
one. -/
theorem ClassGraph.ReadsType.rename {enums after after' : List EnumDef} {type type' : TypeRef}
    {keywords keywords' : Node}
    (h : graph.ReadsType root owner node nameHint enums type keywords after)
    (h' : graph'.ReadsType root (f owner) node nameHint (enums.map (·.rename f)) type' keywords'
      after')
    (leads : ∀ id ∈ type.mentioned, graph'.Leads graph f id) :
    type' = type.rename f ∧ keywords' = keywords ∧ after' = after.map (·.rename f) := by
  induction h generalizing type' keywords' after' with
  | classReference form found isClass target =>
    cases h' with
    | classReference _ found' _ target' =>
      cases found.symm.trans found'
      rw [leads _ (List.mem_singleton_self _) target target']
      exact ⟨rfl, rfl, rfl⟩
    | typeReference _ found' noClass =>
      cases found.symm.trans found'
      cases isClass.symm.trans noClass
    | _ => simp_all only [Except.ok.injEq, reduceCtorEq]
  | typeReference form found noClass _ ih =>
    cases h' with
    | classReference _ found' isClass =>
      cases found.symm.trans found'
      cases isClass.symm.trans noClass
    | typeReference _ found' _ target' =>
      cases found.symm.trans found'
      obtain ⟨type, -, after⟩ := ih target' leads
      exact ⟨type, rfl, after⟩
    | _ => simp_all only [Except.ok.injEq, reduceCtorEq]
  | any form =>
    cases h' with
    | any => exact ⟨rfl, rfl, rfl⟩
    | _ => simp_all only [Except.ok.injEq, reduceCtorEq]
  | known form declared =>
    cases h' with
    | known _ declared' =>
      rw [find?_rename, declared] at declared'
      cases declared'
      exact ⟨rfl, rfl, rfl⟩
    | enum _ _ new =>
      rw [find?_rename, declared] at new
      cases new
    | _ => simp_all only [Except.ok.injEq, reduceCtorEq]
  | enum form given new named =>
    cases h' with
    | known _ declared =>
      rw [find?_rename, new] at declared
      cases declared
    | enum _ given' _ named' =>
      cases given.symm.trans given'
      cases named.symm.trans named'
      exact ⟨rfl, rfl, by rw [List.map_append]; rfl⟩
    | _ => simp_all only [Except.ok.injEq, reduceCtorEq]
  | nullable form _ ih =>
    cases h' with
    | nullable form' beside' =>
      cases form.symm.trans form'
      exact ih beside' leads
    | _ => simp_all only [Except.ok.injEq, reduceCtorEq]
  | ofClass form own =>
    cases h' with
    | ofClass _ own' =>
      rw [leads _ (List.mem_singleton_self _) own own']
      exact ⟨rfl, rfl, rfl⟩
    | _ => simp_all only [Except.ok.injEq, reduceCtorEq]
  | anySequence form =>
    cases h' with
    | anySequence => exact ⟨rfl, rfl, rfl⟩
    | _ => simp_all only [Except.ok.injEq, reduceCtorEq]
  | sequence form _ collected ih =>
    cases h' with
    | sequence form' inner' collected' =>
      cases form.symm.trans form'
      obtain ⟨rfl, rfl, rfl⟩ := ih inner' leads
      rw [constraintsFor_rename, collected] at collected'
      cases collected'
      exact ⟨rfl, rfl, rfl⟩
    | _ => simp_all only [Except.ok.injEq, reduceCtorEq]
  | map form _ ih =>
    cases h' with
    | map form' inner' =>
      cases form.symm.trans form'
      obtain ⟨rfl, -, rfl⟩ := ih inner' leads
      exact ⟨rfl, rfl, rfl⟩
    | _ => simp_all only [Except.ok.injEq, reduceCtorEq]
  | plain form =>
    cases h' with
    | plain form' =>
      cases form.symm.trans form'
      cases Node.HasForm.of_form form with
      | plain isPrimitive => exact ⟨(rename_of_primitiveType isPrimitive).symm, rfl, rfl⟩
    | _ => simp_all only [Except.ok.injEq, reduceCtorEq]

/-- The properties of a schema in two graphs are the same up to the numbers of classes. -/
theorem ClassGraph.ReadsProperty.rename {schema : PropertySchema}
    {enums after after' : List EnumDef} {property property' : Property}
    (h : graph.ReadsProperty root owner schema enums property after)
    (h' : graph'.ReadsProperty root (f owner) schema (enums.map (·.rename f)) property' after')
    (leads : ∀ id ∈ property.type.mentioned, graph'.Leads graph f id) :
    property' = property.rename f ∧ after' = after.map (·.rename f) := by
  cases h with
  | of typed given collected =>
    cases h' with
    | of typed' given' collected' =>
      obtain ⟨rfl, rfl, rfl⟩ := typed.rename typed' leads
      rw [propertyDefault_rename, given] at given'
      rw [constraintsFor_rename, collected] at collected'
      cases given'
      cases collected'
      exact ⟨rfl, rfl⟩

/-- Properties that are read from the same schemas in another graph are the same, up to the numbers
of the classes in them. -/
theorem ClassGraph.readProperties_rename {schemas : List PropertySchema}
    {enums after after' : List EnumDef} {properties properties' : List Property}
    (h : Threaded (graph.ReadsProperty root owner) schemas enums properties after)
    (h' : Threaded (graph'.ReadsProperty root (f owner)) schemas (enums.map (·.rename f))
      properties' after')
    (leads : ∀ property ∈ properties, ∀ id ∈ property.type.mentioned, graph'.Leads graph f id) :
    properties' = properties.map (·.rename f) ∧ after' = after.map (·.rename f) := by
  induction h generalizing properties' after' with
  | nil =>
    cases h'
    exact ⟨rfl, rfl⟩
  | cons first _ ih =>
    obtain ⟨leadsFirst, leadsRest⟩ := List.forall_mem_cons.1 leads
    cases h' with
    | cons first' rest' =>
      obtain ⟨rfl, rfl⟩ := first.rename first' leadsFirst
      obtain ⟨rfl, rfl⟩ := ih rest' leadsRest
      exact ⟨rfl, rfl⟩

/-- The contents of a class in two graphs are the same up to the numbers of classes. -/
theorem ClassGraph.ReadsContent.rename {schemas : List PropertySchema} {id : ClassId}
    (h : graph.ReadsContent root id schemas) (h' : graph'.ReadsContent root (f id) schemas)
    (leads : ∀ property ∈ (graph.get id).properties, ∀ other ∈ property.type.mentioned,
      graph'.Leads graph f other) :
    (graph'.get (f id)).properties = (graph.get id).properties.map (·.rename f) ∧
      (graph'.get (f id)).enums = (graph.get id).enums.map (·.rename f) :=
  readProperties_rename h h' leads

end

/-! ## What a class draws on -/

namespace ClassGraph

/-- The classes whose content is looked at when a class at the top level is written: those in it and
their bases. -/
def shown (graph : ClassGraph) (top : ClassId) : List ClassId :=
  (graph.tree top).classes.flatMap graph.lineage

/-- The classes whose names are looked at when a class at the top level is written: those whose
content is, the classes nested in them, those that they name, and all classes around these. -/
def named (graph : ClassGraph) (top : ClassId) : List ClassId :=
  (graph.shown top).flatMap fun id =>
    (id :: (graph.get id).nested ++ graph.mentioned id).flatMap fun other =>
      other :: graph.enclosing other

structure IsOnly (graph : ClassGraph) (id : ClassId) : Prop where
  inside : id < graph.size
  only : ∀ other, other < graph.size → (graph.get other).path = (graph.get id).path → other = id

def aroundPath (graph : ClassGraph) (id : ClassId) : Option String :=
  (graph.get id).enclosing.map fun outer => (graph.get outer).path

def nestedPaths (graph : ClassGraph) (id : ClassId) : List String :=
  (graph.get id).nested.map fun inner => (graph.get inner).path

/-- A class of a graph and one of another graph are the only ones of the same schema, with the same
name, and they are declared in the classes of the same schema. -/
structure Matches (graph graph' : ClassGraph) (id id' : ClassId) : Prop where
  only : graph.IsOnly id
  only' : graph'.IsOnly id'
  path : (graph'.get id').path = (graph.get id).path
  name : (graph'.get id').name = (graph.get id).name
  around : graph'.aroundPath id' = graph.aroundPath id

/-- What a class draws on has the same names and places in another graph, and where the content of a
class is looked at, the classes of the same schemas are nested in it. -/
def PlacesAlike (graph graph' : ClassGraph) (top : ClassId) : Prop :=
  ∀ id ∈ graph.named top, ∃ id' < graph'.size, graph.Matches graph' id id' ∧
    (id ∈ graph.shown top → graph'.nestedPaths id' = graph.nestedPaths id)

instance (graph : ClassGraph) (id : ClassId) : Decidable (graph.IsOnly id) :=
  decidable_of_iff (id < graph.size ∧ ∀ other, other < graph.size →
      (graph.get other).path = (graph.get id).path → other = id)
    ⟨fun ⟨inside, only⟩ => ⟨inside, only⟩, fun ⟨inside, only⟩ => ⟨inside, only⟩⟩

instance (graph graph' : ClassGraph) (id id' : ClassId) : Decidable (graph.Matches graph' id id') :=
  decidable_of_iff (graph.IsOnly id ∧ graph'.IsOnly id' ∧
      (graph'.get id').path = (graph.get id).path ∧ (graph'.get id').name = (graph.get id).name ∧
      graph'.aroundPath id' = graph.aroundPath id)
    ⟨fun ⟨only, only', path, name, around⟩ => ⟨only, only', path, name, around⟩,
      fun ⟨only, only', path, name, around⟩ => ⟨only, only', path, name, around⟩⟩

instance (graph graph' : ClassGraph) (top : ClassId) : Decidable (graph.PlacesAlike graph' top) :=
  inferInstanceAs (Decidable (∀ id ∈ graph.named top, ∃ id' < graph'.size, _ ∧ _))

theorem mem_named_iff {graph : ClassGraph} {top id : ClassId} : id ∈ graph.named top ↔
    ∃ base ∈ graph.shown top, ∃ other,
      (other = base ∨ other ∈ (graph.get base).nested ∨ other ∈ graph.mentioned base) ∧
        (id = other ∨ id ∈ graph.enclosing other) := by
  simp only [named, List.mem_flatMap, List.mem_cons, List.cons_append, List.mem_append]

theorem named_of_shown {graph : ClassGraph} {top id : ClassId} (shown : id ∈ graph.shown top) :
    id ∈ graph.named top :=
  mem_named_iff.2 ⟨id, shown, id, .inl rfl, .inl rfl⟩

end ClassGraph

/-- The state of a run in which every call has succeeded. -/
structure BuildState.Complete (source : Source) (s : BuildState) : Prop where
  sound : s.Sound source
  packaged : s.Packaged source
  built : ∀ id, id < s.graph.size → (s.graph.get id).built
  reads : ∀ id, id < s.graph.size → s.graph.ReadsClass source.root id

section

variable {source : Source} {s s' : BuildState} {top id other : ClassId}

theorem Run.complete {registered : List Definition} {returned : List (Definition × ClassId)}
    (distinct : source.root.value.distinctKeys) (top : source.root.path = "")
    (run : Run source registered returned true s) : s.Complete source where
  sound := (run.invariant distinct top).sound
  packaged := (run.invariant distinct top).packaged
  built := (run.invariant distinct top).built rfl
  reads _ inside := run.readsClass distinct top rfl inside

theorem BuildState.Sound.mem_lineage_self (sound : s.Sound source) (inside : id < s.graph.size) :
    id ∈ s.graph.lineage id := by
  rw [ClassGraph.lineage_eq sound.composition.founded inside]
  exact List.mem_cons_self

/-- What is looked at when a class at the top level is written is a part of the graph. -/
def BuildState.Sound.part (sound : s.Sound source) (mem : top ∈ s.topLevel)
    (inside : ∀ id ∈ s.graph.named top, id < s.graph.size) : s.graph.Part top where
  written id := id ∈ (s.graph.tree top).classes
  shown id := id ∈ s.graph.shown top
  named id := id ∈ s.graph.named top
  outward := sound.nesting.founded
  bases := sound.composition.founded
  inside mem := inside _ mem
  top_written := by
    rw [sound.nesting.tree_eq, ClassTree.classes]
    exact List.mem_cons_self
  shown_of_written written := List.mem_flatMap.2 ⟨_, written, sound.mem_lineage_self
    ((sound.nesting.mem_topLevel_tree_iff mem).1 written).1⟩
  named_of_shown := ClassGraph.named_of_shown
  tree_written written inTree := by
    rcases sound.nesting.mem_classes_tree_iff.1 inTree with rfl | around
    · exact written
    · refine (sound.nesting.mem_topLevel_tree_iff mem).2
        ⟨sound.nesting.lt_size_of_mem_enclosing around, ?_⟩
      rw [sound.nesting.topLevel_of_mem_enclosing around]
      exact ((sound.nesting.mem_topLevel_tree_iff mem).1 written).2
  around_written {id outer} written around := by
    refine (sound.nesting.mem_topLevel_tree_iff mem).2
      ⟨sound.nesting.founded.lt_size around, ?_⟩
    have top := ((sound.nesting.mem_topLevel_tree_iff mem).1 written).2
    rwa [ClassGraph.topLevel_eq sound.nesting.founded id, around] at top
  written_of_topLevel shown same := (sound.nesting.mem_topLevel_tree_iff mem).2
    ⟨inside _ (ClassGraph.named_of_shown shown), same⟩
  base_shown shown isBase := by
    obtain ⟨first, written, inLineage⟩ := List.mem_flatMap.1 shown
    have lt := ((sound.nesting.mem_topLevel_tree_iff mem).1 written).1
    exact List.mem_flatMap.2
      ⟨first, written, sound.composition.founded.mem_chainFrom_next lt inLineage isBase⟩
  nested_named shown inner := ClassGraph.mem_named_iff.2 ⟨_, shown, _, .inr (.inl inner), .inl rfl⟩
  mentioned_named {id _ _} shown known mentioned := by
    have inLineage := sound.mem_lineage_self (inside id (ClassGraph.named_of_shown shown))
    refine ClassGraph.mem_named_iff.2 ⟨_, shown, _, .inr (.inr ?_), .inl rfl⟩
    refine List.mem_append_right _ (List.mem_flatMap.2 ⟨_, ?_, mentioned⟩)
    exact List.mem_flatMap.2 ⟨id, List.mem_reverse.2 inLineage, known⟩
  around_named named around := by
    obtain ⟨base, shown, other, near, mem⟩ := ClassGraph.mem_named_iff.1 named
    refine ClassGraph.mem_named_iff.2 ⟨base, shown, other, near, .inr ?_⟩
    rcases mem with rfl | mem
    · rw [ClassGraph.enclosing_eq sound.nesting.founded, around]
      exact List.mem_cons_self
    · exact sound.nesting.mem_enclosing_iff.2 ⟨_, around, .inr mem⟩

/-! ## Alternatives -/

/-- A class whose schema has a choice is an open base. -/
theorem Node.isChoice_of_parts {root node : Node} {parts : Option Node × List PropertySchema}
    (h : root.parts node = .ok parts) (isChoice : node.has "oneOf" || node.has "anyOf") :
    node.isChoice := by
  unfold Node.isChoice
  unfold Node.parts at h
  cases found : node.member? "allOf" with
  | none =>
    have noAllOf : node.has "allOf" = false := by simpa [Node.has, Node.member?] using found
    simpa [noAllOf] using isChoice
  | some members =>
    rw [found] at h
    obtain ⟨_, splits, -⟩ := Except.bind_eq_ok_iff.1 h
    unfold splitAllOf at splits
    simp only [isChoice, if_true] at splits
    split at splits <;> cases splits

namespace BuildState.Complete

/-- The base of an alternative is the class of the choice, in which it is declared. -/
theorem base_of_alternative (h : s.Complete source) {choice alternative : Node} {base : ClassId}
    (isAlternative : source.root.HasAlternative choice alternative)
    (path : (s.graph.get id).path = alternative.path)
    (kind : (s.graph.get id).kind = .nestedVariant) (isBase : (s.graph.get id).base = some base) :
    (s.graph.get base).path = choice.path ∧ (s.graph.get id).enclosing = some base := by
  obtain ⟨base', choice', alternative', isBase', basePath, isAlternative', path'⟩ :=
    h.sound.paths.alternative kind
  obtain ⟨rfl, -⟩ := isAlternative.unique h.sound.distinct h.sound.top isAlternative'
    (path.symm.trans path')
  cases isBase.symm.trans isBase'
  refine ⟨basePath, ?_⟩
  rcases h.sound.composition.base isBase with variant | extension
  · exact variant.enclosing
  · exact absurd kind (ClassKind.ne_of_plain_or_data extension.kind).2

/-- The only class of an alternative is the one in the open base if it stands in the class of the
choice. -/
theorem kind_of_alternative (h : s.Complete source) {choice alternative : Node}
    (isAlternative : source.root.HasAlternative choice alternative) (only : s.graph.IsOnly id)
    (path : (s.graph.get id).path = alternative.path)
    (around : s.graph.aroundPath id = some choice.path) :
    (s.graph.get id).kind = .nestedVariant := by
  obtain ⟨outer, enclosing, outerPath⟩ := Option.map_eq_some_iff.1 around
  have inside := h.sound.nesting.founded.lt_size enclosing
  have isClass : isClassSchema choice true = .ok true ∧ isComposed choice ∧
      (choice.has "oneOf" || choice.has "anyOf") := by
    cases isAlternative with
    | of _ isClass isChoice found =>
      have has := Node.has_of_member? found
      refine ⟨isClass, Node.isComposed_of_member? isChoice found, ?_⟩
      rcases isChoice with rfl | rfl <;> simp [has]
  obtain ⟨isClass, composed, isChoice⟩ := isClass
  cases h.reads outer inside with
  | filled within nodePath parts _ isOpen =>
    obtain rfl := within.eq_of_path h.sound.distinct h.sound.top isAlternative.within_choice
      (nodePath.symm.trans outerPath)
    have openBase := isOpen.2 (Node.isChoice_of_parts parts isChoice)
    obtain ⟨variant, kind, -, path'⟩ :=
      h.sound.paths.variants (h.built outer inside) openBase isAlternative outerPath
    have eq := only.only variant (ClassGraph.lt_size_of_variant kind) (path'.trans path.symm)
    exact eq ▸ kind
  | variant isAlternative' nodePath _ _ target simple =>
    -- An alternative is no choice itself.
    have same := isAlternative.within_choice.eq_of_path h.sound.distinct h.sound.top
      isAlternative'.within (outerPath.symm.trans nodePath)
    have direct : ¬choice.has "$ref" := by
      intro isReference
      simp [isClassSchema, isReference] at isClass
    rw [← same, Node.alternativeTarget, if_neg direct] at target
    cases target
    simp [isAlternativeSchema, composed] at simple

end BuildState.Complete

/-! ## Copies -/

theorem ClassGraph.Matches.symm {graph graph' : ClassGraph} {id' : ClassId}
    (h : graph.Matches graph' id id') : graph'.Matches graph id' id :=
  ⟨h.only', h.only, h.path.symm, h.name.symm, h.around.symm⟩

theorem ClassGraph.Matches.leads {graph graph' : ClassGraph}
    (h : graph.Matches graph' id (f id)) : graph'.Leads graph f id := by
  intro path other hasPath hasPath'
  refine h.only'.only other hasPath'.inside ?_
  rw [hasPath'.path, h.path, hasPath.path]

/-- The bases of the classes of a schema are the classes of the same schema. -/
theorem ClassGraph.base_rename {graph graph' : ClassGraph} {base? base'? : Option ClassId}
    {target? : Option Node}
    (h : Option.Rel (fun base target => graph.HasPath base target.path) base? target?)
    (h' : Option.Rel (fun base target => graph'.HasPath base target.path) base'? target?)
    (leads : ∀ base ∈ base?, graph'.Leads graph f base) : base'? = base?.map f := by
  cases h with
  | none =>
    cases h'
    rfl
  | some hasPath =>
    cases h' with
    | some hasPath' => rw [leads _ rfl hasPath hasPath', Option.map_some]

/-- The classes of schemas are in another graph the classes of the same schemas. -/
theorem ClassGraph.map_eq_of_paths {graph graph' : ClassGraph} {ids ids' : List ClassId}
    (same : ids'.map (fun id => (graph'.get id).path) = ids.map fun id => (graph.get id).path)
    (inside' : ∀ id ∈ ids', id < graph'.size)
    (leads : ∀ id ∈ ids, id < graph.size ∧ graph'.Leads graph f id) : ids' = ids.map f := by
  induction ids generalizing ids' with
  | nil => rw [List.map_nil, List.map_eq_nil_iff.1 same]
  | cons id rest ih =>
    obtain ⟨⟨inside, first⟩, others⟩ := List.forall_mem_cons.1 leads
    cases ids' with
    | nil => cases same
    | cons id' rest' =>
      obtain ⟨firstInside, restInside⟩ := List.forall_mem_cons.1 inside'
      rw [List.map_cons, List.map_cons, List.cons_eq_cons] at same
      rw [List.map_cons, ih same.2 restInside others,
        first ⟨inside, rfl⟩ ⟨firstInside, same.1⟩]

namespace BuildState.Complete

variable (h : s.Complete source) (h' : s'.Complete source)
include h h'

/-- A class that is an alternative is one in the other run, too. -/
theorem kind_of_matches {id' : ClassId} (matched : s.graph.Matches s'.graph id id')
    (kind : (s.graph.get id).kind = .nestedVariant) :
    (s'.graph.get id').kind = .nestedVariant := by
  obtain ⟨base, choice, alternative, isBase, basePath, isAlternative, path⟩ :=
    h.sound.paths.alternative kind
  refine h'.kind_of_alternative isAlternative matched.only' (matched.path.trans path) ?_
  obtain ⟨-, enclosing⟩ := h.base_of_alternative isAlternative path kind isBase
  rw [matched.around, ClassGraph.aroundPath, enclosing, Option.map_some, basePath]

section

variable {part : s.graph.Part top}
  (matched : ∀ {id}, part.named id → s.graph.Matches s'.graph id (f id))
include matched

/-- The content of a class is the same in the other run, up to the numbers of classes. The induction
is on the bases: an alternative leaves out the properties of its base. -/
theorem content_eq (shown : part.shown id) :
    (s'.graph.get (f id)).base = (s.graph.get id).base.map f ∧
    (s'.graph.get (f id)).properties = (s.graph.get id).properties.map (·.rename f) ∧
    (s'.graph.get (f id)).enums = (s.graph.get id).enums.map (·.rename f) := by
  induction h.sound.composition.founded.wellFounded.apply id with
  | intro id _ ih =>
    have own := matched (part.named_of_shown shown)
    have leadsBase : ∀ base ∈ (s.graph.get id).base, s'.graph.Leads s.graph f base :=
      fun base isBase => (matched (part.named_of_shown (part.base_shown shown isBase))).leads
    have leadsTypes : ∀ property ∈ (s.graph.get id).properties,
        ∀ other ∈ property.type.mentioned, s'.graph.Leads s.graph f other :=
      fun property known other mentioned =>
        (matched (part.mentioned_named shown known mentioned)).leads
    cases h.reads id own.only.inside with
    | filled within path parts kind _ base content =>
      cases h'.reads (f id) own.only'.inside with
      | filled within' path' parts' _ _ base' content' =>
        obtain rfl := within.eq_of_path h.sound.distinct h.sound.top within'
          (path.symm.trans (own.path.symm.trans path'))
        cases parts.symm.trans parts'
        exact ⟨ClassGraph.base_rename base base' leadsBase, content.rename content' leadsTypes⟩
      | variant _ _ kind' => exact absurd (h'.kind_of_matches h own.symm kind') kind
    | variant isAlternative path kind isBase target _ content =>
      cases h'.reads (f id) own.only'.inside with
      | filled _ _ _ kind' => exact absurd (h.kind_of_matches h' own kind) kind'
      | variant isAlternative' path' kind' isBase' target' _ content' =>
        obtain ⟨rfl, rfl⟩ := isAlternative.unique h.sound.distinct h.sound.top isAlternative'
          (path.symm.trans (own.path.symm.trans path'))
        cases target.symm.trans target'
        have shownBase := part.base_shown shown isBase
        have insideBase := part.inside (part.named_of_shown shownBase)
        -- Both bases are the classes of the choice.
        obtain rfl := leadsBase _ isBase
          ⟨insideBase, (h.base_of_alternative isAlternative path kind isBase).1⟩
          ⟨h'.sound.composition.founded.lt_size isBase',
            (h'.base_of_alternative isAlternative path' kind' isBase').1⟩
        obtain ⟨-, baseProperties, -⟩ := ih _ isBase shownBase
        rw [baseProperties, List.map_map] at content'
        refine ⟨by rw [isBase, isBase', Option.map_some], content.rename content' leadsTypes⟩

omit h in
/-- The class around a class is that around it in the other run. -/
theorem enclosing_eq (named : part.named id) :
    (s'.graph.get (f id)).enclosing = (s.graph.get id).enclosing.map f := by
  have around := (matched named).around
  unfold ClassGraph.aroundPath at around
  cases enclosing : (s.graph.get id).enclosing with
  | none =>
    rw [enclosing, Option.map_none] at around
    rw [Option.map_eq_none_iff.1 around, Option.map_none]
  | some outer =>
    rw [enclosing, Option.map_some] at around
    obtain ⟨outer', enclosing', path⟩ := Option.map_eq_some_iff.1 around
    have own := matched (part.around_named named enclosing)
    rw [enclosing', Option.map_some,
      own.leads ⟨own.only.inside, rfl⟩ ⟨h'.sound.nesting.founded.lt_size enclosing', path⟩]

omit h in
/-- The classes nested in a class are those nested in it in the other run, if they are those of the
same schemas. -/
theorem nested_eq (shown : part.shown id)
    (same : s'.graph.nestedPaths (f id) = s.graph.nestedPaths id) :
    (s'.graph.get (f id)).nested = (s.graph.get id).nested.map f := by
  refine ClassGraph.map_eq_of_paths same (fun inner mem => ?_) fun inner mem => ?_
  · exact Nesting.lt_size_of_enclosing (h'.sound.nesting.enclosing_of_mem_nested mem)
  · have own := matched (part.nested_named shown mem)
    exact ⟨own.only.inside, own.leads⟩

/-- The other run has copies of the bases and the properties of a part. -/
theorem composedBy : part.ComposedBy s'.graph f where
  bases := h'.sound.composition.founded
  inside named := (matched named).only'.inside
  base shown := (h.content_eq h' matched shown).1
  properties shown := (h.content_eq h' matched shown).2.1

omit h' matched in
/-- A class that is neither an open base nor an alternative is compared by value if it has
properties. -/
theorem kind_eq_kindFor (inside : id < s.graph.size)
    (closed : (s.graph.get id).kind ≠ .openBase ∧ (s.graph.get id).kind ≠ .nestedVariant) :
    (s.graph.get id).kind = kindFor (s.graph.allProperties id) := by
  refine (h.sound.composition.kind inside (ClassKind.plain_or_data closed)).resolve_left ?_
  intro blank
  have built := h.built id inside
  rw [blank.built] at built
  cases built

/-- A class and its copy are of the same kind. -/
theorem kind_eq (shown : part.shown id) :
    (s'.graph.get (f id)).kind = (s.graph.get id).kind := by
  have own := matched (part.named_of_shown shown)
  cases h.reads id own.only.inside with
  | variant _ _ kind => rw [kind, h.kind_of_matches h' own kind]
  | filled within path _ kind isOpen =>
    cases h'.reads (f id) own.only'.inside with
    | variant _ _ kind' => exact absurd (h'.kind_of_matches h own.symm kind') kind
    | filled within' path' _ kind' isOpen' =>
      obtain rfl := within.eq_of_path h.sound.distinct h.sound.top within'
        (path.symm.trans (own.path.symm.trans path'))
      by_cases openBase : (s.graph.get id).kind = .openBase
      · rw [openBase, isOpen'.2 (isOpen.1 openBase)]
      · have closed' : (s'.graph.get (f id)).kind ≠ .openBase := fun openBase' =>
          openBase (isOpen.2 (isOpen'.1 openBase'))
        rw [h.kind_eq_kindFor own.only.inside ⟨openBase, kind⟩,
          h'.kind_eq_kindFor own.only'.inside ⟨closed', kind'⟩,
          (h.composedBy h' matched).allProperties_eq shown]
        unfold kindFor
        rw [List.isEmpty_map]

omit matched in
/-- The tree of a class is that in the other run. -/
theorem tree_eq (nested : ∀ {id}, part.shown id →
      (s'.graph.get (f id)).nested = (s.graph.get id).nested.map f) (written : part.written id) :
    s'.graph.tree (f id) = (s.graph.tree id).rename f := by
  refine h.sound.nesting.induction_nested (P := fun id => part.written id →
    s'.graph.tree (f id) = (s.graph.tree id).rename f) (fun id ih written => ?_) id written
  rw [h'.sound.nesting.tree_eq, h.sound.nesting.tree_eq, ClassTree.rename, ClassTree.renameAll_eq,
    nested (part.shown_of_written written), List.map_map, List.map_map]
  refine congrArg _ (List.map_congr_left fun inner mem => ih inner mem ?_)
  refine part.tree_written written ?_
  rw [h.sound.nesting.mem_classes_tree_iff, ClassGraph.enclosing_eq h.sound.nesting.founded,
    h.sound.nesting.enclosing_of_mem_nested mem]
  exact .inr List.mem_cons_self

/-- The other run has a copy of a part whose classes have the same names and places there. -/
theorem copiedBy (nested : ∀ {id}, part.shown id →
      s'.graph.nestedPaths (f id) = s.graph.nestedPaths id) : part.CopiedBy s'.graph f where
  toComposedBy := h.composedBy h' matched
  outward := h'.sound.nesting.founded
  injective {a b} namedA namedB eq := by
    have ownA := matched namedA
    have ownB := matched namedB
    refine ownB.only.only a ownA.only.inside ?_
    rw [← ownA.path, eq, ownB.path]
  name named := (matched named).name
  package named := by
    rw [h.packaged _ (matched named).only.inside, h'.packaged _ (matched named).only'.inside]
  enclosing named := h'.enclosing_eq matched named
  kind shown := h.kind_eq h' matched shown
  nested shown := h'.nested_eq matched shown (nested shown)
  enums shown := (h.content_eq h' matched shown).2.2
  tree written := h.tree_eq h' (fun shown => h'.nested_eq matched shown (nested shown))
    written

end

/-- Where what a class draws on has the same names and places in another run, that one has a copy of
it. -/
theorem exists_copy (mem : top ∈ s.topLevel) (alike : s.graph.PlacesAlike s'.graph top) :
    ∃ (part : s.graph.Part top) (f : ClassId → ClassId), part.CopiedBy s'.graph f ∧
      s.graph.Matches s'.graph top (f top) := by
  choose! f _ matched nested using alike
  let part := h.sound.part mem fun id named => (matched id named).only.inside
  have matched' {id : ClassId} (named : part.named id) : s.graph.Matches s'.graph id (f id) :=
    matched id named
  refine ⟨part, f, h.copiedBy h' matched' fun {id} shown => ?_,
    matched' (part.named_of_written part.top_written)⟩
  exact nested id (part.named_of_shown shown) shown

end BuildState.Complete

end

end SchemaClasses
