import SchemaClasses.Proofs.Build.Form
import SchemaClasses.Proofs.Build.Run

/-!
# What classes are read from

What a class holds is told from its schema alone, but for the classes that its types and its base
are: these are found by the paths of their schemas. So the content of a class does not depend on
what has been built before it, once it is known which class each schema has.

## Main definitions

* `Threaded`: a list is read member by member.
* `ClassGraph.ReadsType`, `ClassGraph.ReadsProperty`: types and properties as they stand in schemas.
* `ClassGraph.ReadsClass`: the content of a class as it stands in its schema.
* `NewReads`: the classes that are new in a state are read in it.

## Main statements

* `Steps.readsClass`: a complete class is read in all later states as it has been before.
-/

namespace SchemaClasses

/-! ## Readings -/

/-- Each member of a list gives a result and changes a state, one after the other. -/
inductive Threaded {α β σ : Type} (R : α → σ → β → σ → Prop) : List α → σ → List β → σ → Prop
  | nil {s : σ} : Threaded R [] s [] s
  | cons {a : α} {as : List α} {b : β} {bs : List β} {s t u : σ} (first : R a s b t)
      (rest : Threaded R as t bs u) : Threaded R (a :: as) s (b :: bs) u

namespace Threaded

variable {α β σ : Type} {R R' : α → σ → β → σ → Prop} {as : List α} {bs : List β} {s t : σ}

theorem mono (h : Threaded R as s bs t) (imp : ∀ {a s b t}, R a s b t → R' a s b t) :
    Threaded R' as s bs t := by
  induction h with
  | nil => exact .nil
  | cons first _ ih => exact .cons (imp first) ih

/-- What each member gives, whatever the state. -/
theorem forall₂ {Q : α → β → Prop} (h : Threaded R as s bs t)
    (imp : ∀ {a s b t}, R a s b t → Q a b) : List.Forall₂ Q as bs := by
  induction h with
  | nil => exact .nil
  | cons first _ ih => exact .cons (imp first) ih

end Threaded

theorem exists_of_forall₂ {α β : Type} {Q : α → β → Prop} {as : List α} {bs : List β}
    (h : List.Forall₂ Q as bs) {a : α} (mem : a ∈ as) : ∃ b ∈ bs, Q a b := by
  induction h with
  | nil => cases mem
  | cons first _ ih => grind

structure ClassGraph.HasPath (graph : ClassGraph) (id : ClassId) (path : String) : Prop where
  inside : id < graph.size
  path : (graph.get id).path = path

/-- `type` is the type of a schema, and `keywords` the schema that its validation keywords are read
from. The enums that have been declared for the schemas of the class so far are `enums`, and with
those of this schema they are the last list. -/
inductive ClassGraph.ReadsType (graph : ClassGraph) (root : Node) (owner : ClassId) :
    Node → String → List EnumDef → TypeRef → Node → List EnumDef → Prop
  | classReference {node : Node} {nameHint : String} {enums : List EnumDef} {resolved : Resolved}
      {id : ClassId} (form : node.form = .ok .reference) (found : follow root node = .ok resolved)
      (isClass : isClassSchema resolved.target true = .ok true)
      (target : graph.HasPath id resolved.target.path) :
      ReadsType graph root owner node nameHint enums (.ofClass id) resolved.target enums
  | typeReference {node : Node} {nameHint : String} {enums enums' : List EnumDef}
      {resolved : Resolved} {type : TypeRef} {keywords : Node} (form : node.form = .ok .reference)
      (found : follow root node = .ok resolved)
      (noClass : isClassSchema resolved.target true = .ok false)
      (target : ReadsType graph root owner resolved.target (Pointer.tail resolved.pointer) enums
        type keywords enums') :
      ReadsType graph root owner node nameHint enums type resolved.target enums'
  | any {node : Node} {nameHint : String} {enums : List EnumDef} (form : node.form = .ok .any) :
      ReadsType graph root owner node nameHint enums anyType node enums
  | known {node : Node} {nameHint : String} {enums : List EnumDef} {definition : EnumDef}
      (form : node.form = .ok .enum)
      (declared : enums.find? (·.path = node.path) = some definition) :
      ReadsType graph root owner node nameHint enums (.enum definition) node enums
  | enum {node : Node} {nameHint name : String} {enums : List EnumDef} {values : List String}
      (form : node.form = .ok .enum) (given : enumValues node = .ok values)
      (new : enums.find? (·.path = node.path) = none)
      (named : className (some node) nameHint = .ok name) :
      ReadsType graph root owner node nameHint enums (.enum ⟨name, values, owner, node.path⟩) node
        (enums ++ [⟨name, values, owner, node.path⟩])
  | nullable {node alternative : Node} {nameHint : String} {enums enums' : List EnumDef}
      {type : TypeRef} {keywords : Node} (form : node.form = .ok (.nullable alternative))
      (beside : ReadsType graph root owner alternative nameHint enums type keywords enums') :
      ReadsType graph root owner node nameHint enums type keywords enums'
  | ofClass {node : Node} {nameHint : String} {enums : List EnumDef} {id : ClassId}
      (form : node.form = .ok .ofClass) (own : graph.HasPath id node.path) :
      ReadsType graph root owner node nameHint enums (.ofClass id) node enums
  | anySequence {node : Node} {nameHint : String} {enums : List EnumDef}
      (form : node.form = .ok .anySequence) :
      ReadsType graph root owner node nameHint enums (.sequence anyType []) node enums
  | sequence {node items : Node} {nameHint : String} {enums enums' : List EnumDef} {item : TypeRef}
      {keywords : Node} {constraints : List Constraint} (form : node.form = .ok (.sequence items))
      (inner : ReadsType graph root owner items nameHint enums item keywords enums')
      (collected : constraintsFor keywords item = .ok constraints) :
      ReadsType graph root owner node nameHint enums (.sequence item constraints) node enums'
  | map {node values : Node} {nameHint : String} {enums enums' : List EnumDef} {value : TypeRef}
      {keywords : Node} (form : node.form = .ok (.map values))
      (inner : ReadsType graph root owner values nameHint enums value keywords enums') :
      ReadsType graph root owner node nameHint enums (.map value) node enums'
  | plain {node : Node} {nameHint : String} {enums : List EnumDef} {type : TypeRef}
      (form : node.form = .ok (.plain type)) :
      ReadsType graph root owner node nameHint enums type node enums

structure PropertySchema where
  name : String
  node : Node
  isRequired : Bool

def PropertySchema.property (schema : PropertySchema) (type : TypeRef) (default? : Option Value)
    (constraints : List Constraint) : Property where
  name := schema.name
  type := type
  nullable := admitsNull schema.node || (!schema.isRequired && default?.isNone)
  required := schema.isRequired
  default? := default?
  constraints :=
    (if schema.isRequired && !admitsNull schema.node then [⟨.required, .null⟩] else []) ++
      constraints
  path := schema.node.path

/-- The schemas of the properties of a schema, those with a name in `skipped` apart. -/
def Node.declaredProperties (node : Node) (skipped : List String := []) : List PropertySchema :=
  match node.member? "properties" with
  | none => []
  | some properties =>
    let required := (node.member? "required").elim [] (·.value.items)
    (properties.members.filter fun (name, _) => !skipped.contains name).map fun (name, schema) =>
      ⟨name, schema, required.any (·.isString name)⟩

inductive ClassGraph.ReadsProperty (graph : ClassGraph) (root : Node) (owner : ClassId) :
    PropertySchema → List EnumDef → Property → List EnumDef → Prop
  | of {schema : PropertySchema} {enums enums' : List EnumDef} {type : TypeRef} {keywords : Node}
      {default? : Option Value} {constraints : List Constraint}
      (typed : graph.ReadsType root owner schema.node schema.name enums type keywords enums')
      (given : propertyDefault schema.node type schema.isRequired = .ok default?)
      (collected : constraintsFor keywords type = .ok constraints) :
      ReadsProperty graph root owner schema enums (schema.property type default? constraints) enums'

def ClassGraph.ReadsContent (graph : ClassGraph) (root : Node) (id : ClassId)
    (schemas : List PropertySchema) : Prop :=
  Threaded (graph.ReadsProperty root id) schemas [] (graph.get id).properties (graph.get id).enums

/-- The properties of a class have the names of their schemas, and are required as these say. -/
theorem ClassGraph.ReadsContent.forall₂ {graph : ClassGraph} {root : Node} {id : ClassId}
    {schemas : List PropertySchema} (h : graph.ReadsContent root id schemas) :
    List.Forall₂ (fun schema property => property.name = schema.name ∧
      property.required = schema.isRequired) schemas (graph.get id).properties :=
  Threaded.forall₂ h fun read => by
    cases read
    exact ⟨rfl, rfl⟩

/-- The schema of the base of a class, if it has one, and those of its properties. -/
def Node.parts (root node : Node) : Except Failure (Option Node × List PropertySchema) :=
  match node.member? "allOf" with
  | none => .ok (none, node.declaredProperties)
  | some members => do
    let (reference, inline) ← splitAllOf node members
    let resolved ← follow root reference
    return (some resolved.target, (inline ++ [node]).flatMap (·.declaredProperties))

/-- Whether the class of a schema is an open base. -/
def Node.isChoice (node : Node) : Bool :=
  !node.has "allOf" && (node.has "oneOf" || node.has "anyOf")

/-- The schema that the class of an alternative is filled from. -/
def Node.alternativeTarget (root alternative : Node) : Except Failure Node :=
  if alternative.has "$ref" then do return (← follow root alternative).target else .ok alternative

inductive ClassGraph.ReadsClass (graph : ClassGraph) (root : Node) (id : ClassId) : Prop
  | filled {node : Node} {base? : Option Node} {schemas : List PropertySchema}
      (within : root.Within node) (path : (graph.get id).path = node.path)
      (parts : root.parts node = .ok (base?, schemas))
      (kind : (graph.get id).kind ≠ .nestedVariant)
      (isOpen : (graph.get id).kind = .openBase ↔ node.isChoice)
      (base : Option.Rel (fun base target => graph.HasPath base target.path)
        (graph.get id).base base?)
      (content : graph.ReadsContent root id schemas) : ReadsClass graph root id
  | variant {choice alternative schema : Node} {base : ClassId}
      (isAlternative : root.HasAlternative choice alternative)
      (path : (graph.get id).path = alternative.path)
      (kind : (graph.get id).kind = .nestedVariant) (isBase : (graph.get id).base = some base)
      (target : root.alternativeTarget alternative = .ok schema)
      (simple : isAlternativeSchema schema = .ok true)
      (content : graph.ReadsContent root id
        (schema.declaredProperties ((graph.get base).properties.map (·.name)))) :
      ReadsClass graph root id

/-- No alternative composes other schemas, and so the class of a schema that does is filled from its
parts. -/
theorem ClassGraph.ReadsClass.of_composed {graph : ClassGraph} {root node : Node} {id : ClassId}
    (h : graph.ReadsClass root id) (distinct : root.value.distinctKeys) (top : root.path = "")
    (within : root.Within node) (isClass : isClassSchema node true = .ok true)
    (composed : isComposed node) (path : (graph.get id).path = node.path) :
    ∃ base? schemas, root.parts node = .ok (base?, schemas) ∧
      ((graph.get id).kind = .openBase ↔ node.isChoice) ∧ graph.ReadsContent root id schemas := by
  cases h with
  | filled within' path' parts _ isOpen _ content =>
    obtain rfl := within.eq_of_path distinct top within' (path.symm.trans path')
    exact ⟨_, _, parts, isOpen, content⟩
  | variant isAlternative path' _ _ target simple =>
    obtain rfl := within.eq_of_path distinct top isAlternative.within (path.symm.trans path')
    have direct : ¬node.has "$ref" := by
      intro isReference
      rw [not_isClass_of_reference isReference] at isClass
      cases isClass
    rw [Node.alternativeTarget, if_neg direct] at target
    cases target
    rw [isAlternativeSchema, if_pos composed] at simple
    cases simple

/-! ## Readings in a later graph -/

section

variable {graph graph' : ClassGraph} {root : Node} {id owner : ClassId}

/-- A type goes on to be read in any graph that keeps the classes of paths. -/
theorem ClassGraph.ReadsType.mono
    (keeps : ∀ {id path}, graph.HasPath id path → graph'.HasPath id path) {node : Node}
    {nameHint : String} {enums enums' : List EnumDef} {type : TypeRef} {keywords : Node}
    (h : graph.ReadsType root owner node nameHint enums type keywords enums') :
    graph'.ReadsType root owner node nameHint enums type keywords enums' := by
  induction h with
  | classReference form found isClass target =>
    exact .classReference form found isClass (keeps target)
  | typeReference form found noClass _ ih => exact .typeReference form found noClass ih
  | any form => exact .any form
  | known form declared => exact .known form declared
  | enum form given new named => exact .enum form given new named
  | nullable form _ ih => exact .nullable form ih
  | ofClass form own => exact .ofClass form (keeps own)
  | anySequence form => exact .anySequence form
  | sequence form _ collected ih => exact .sequence form ih collected
  | map form _ ih => exact .map form ih
  | plain form => exact .plain form

theorem ClassGraph.ReadsProperty.mono
    (keeps : ∀ {id path}, graph.HasPath id path → graph'.HasPath id path) {schema : PropertySchema}
    {enums enums' : List EnumDef} {property : Property}
    (h : graph.ReadsProperty root owner schema enums property enums') :
    graph'.ReadsProperty root owner schema enums property enums' := by
  cases h with
  | of typed given collected => exact .of (typed.mono keeps) given collected

/-- The content of a class goes on to be read as long as it is not changed. -/
theorem ClassGraph.ReadsContent.mono
    (keeps : ∀ {id path}, graph.HasPath id path → graph'.HasPath id path)
    (properties : (graph'.get id).properties = (graph.get id).properties)
    (enums : (graph'.get id).enums = (graph.get id).enums) {schemas : List PropertySchema}
    (h : graph.ReadsContent root id schemas) : graph'.ReadsContent root id schemas := by
  unfold ClassGraph.ReadsContent
  rw [properties, enums]
  exact Threaded.mono h (·.mono keeps)

/-- A class whose content is the same in another graph is read there, too. -/
theorem ClassGraph.ReadsClass.mono
    (keeps : ∀ {id path}, graph.HasPath id path → graph'.HasPath id path)
    (inside : id < graph.size) (sameKind : (graph'.get id).kind = (graph.get id).kind)
    (sameProperties : (graph'.get id).properties = (graph.get id).properties)
    (sameBase : (graph'.get id).base = (graph.get id).base)
    (enums : (graph'.get id).enums = (graph.get id).enums)
    (bases : ∀ base, (graph.get id).base = some base →
      (graph'.get base).properties = (graph.get base).properties)
    (h : graph.ReadsClass root id) : graph'.ReadsClass root id := by
  have path := (keeps ⟨inside, rfl⟩).path
  cases h with
  | filled within path' parts kind isOpen base content =>
    refine .filled within (path.trans path') parts ?_ ?_ ?_
      (content.mono keeps sameProperties enums)
    · rwa [sameKind]
    · rwa [sameKind]
    · rw [sameBase]
      generalize (graph.get id).base = base? at base
      cases base with
      | some found => exact .some (keeps found)
      | none => exact .none
  | variant isAlternative path' kind isBase target simple content =>
    refine .variant isAlternative (path.trans path') (sameKind.trans kind)
      (sameBase.trans isBase) target simple ?_
    rw [bases _ isBase]
    exact content.mono keeps sameProperties enums

end

/-! ## Readings after steps -/

section

variable {source : Source} {floor id : ClassId} {s s' : BuildState}

theorem Kept.hasPath (kept : Kept floor s s') {path : String} (h : s.graph.HasPath id path) :
    s'.graph.HasPath id path :=
  ⟨Nat.lt_of_lt_of_le h.inside kept.size_le, (kept.declaration h.inside).path.trans h.path⟩

/-- A complete class keeps its content and its enums. -/
theorem Step.of_built (step : Step source floor s s') (nesting : s.Nesting)
    (built : (s.graph.get id).built) : (s.graph.get id).SameContent (s'.graph.get id) ∧
      (s'.graph.get id).enums = (s.graph.get id).enums := by
  have inside := ClassGraph.lt_size_of_built built
  have declares {model : ClassModel} (h : s.Declares source s' model) :
      (s.graph.get id).SameContent (s'.graph.get id) ∧
        (s'.graph.get id).enums = (s.graph.get id).enums :=
    ⟨(h.get_of_ne nesting (Nat.ne_of_lt inside)).2, h.enums_of_lt nesting inside⟩
  have change {other : ClassId} (active : s.IsActive other) (f : ClassModel → ClassModel) :
      (s.graph.get id).SameContent ((s.change other f).graph.get id) ∧
        ((s.change other f).graph.get id).enums = (s.graph.get id).enums := by
    have ne : id ≠ other := fun eq => active.pending (eq ▸ built)
    rw [s.change_get_of_ne ne]
    exact ⟨⟨rfl, rfl, rfl, rfl⟩, rfl⟩
  cases step with
  | progress inProgress => exact ⟨⟨rfl, rfl, rfl, rfl⟩, rfl⟩
  | declare _ _ _ leads placed => exact declares (.begin leads placed)
  | variant _ active => exact declares (.variant active)
  | fill _ active => exact change active _
  | enum active => exact change active _

/-- A class from which another one is composed keeps its properties. -/
theorem Step.properties_of_base (step : Step source floor s s') (sound : s.Sound source)
    {other base : ClassId} (isBase : (s.graph.get other).base = some base) :
    (s'.graph.get base).properties = (s.graph.get base).properties := by
  have inside := sound.composition.founded.lt_size isBase
  have declares {model : ClassModel} (h : s.Declares source s' model) :
      (s'.graph.get base).properties = (s.graph.get base).properties :=
    (h.get_of_ne sound.nesting (Nat.ne_of_lt inside)).2.properties
  cases step with
  | progress inProgress => rfl
  | declare _ _ _ leads placed => exact declares (.begin leads placed)
  | variant _ active => exact declares (.variant active)
  | @fill filled f _ active filling =>
    by_cases eq : base = filled
    · subst eq
      rw [s.change_get_self inside]
      have unreached (blank : (s.graph.get base).Blank) : False :=
        sound.composition.unreached_of_blank blank other isBase
      generalize f (s.graph.get base) = model at filling
      cases filling with
      | openBase | complete => rfl
      | share _ childless => exact absurd isBase (childless other)
      | variant kind =>
        exact absurd isBase (sound.composition.unreached_of_variant kind other)
      | plain blank => exact (unreached blank).elim
      | extend blank => exact (unreached blank).elim
    · rw [s.change_get_of_ne eq]
  | enum active =>
    obtain ⟨enums, eq⟩ := s.change_enums_get _ active.inside base
    rw [eq]

/-- A complete class is read in all later states as it has been before. -/
theorem Steps.readsClass (steps : Steps source floor s s') (sound : s.Sound source)
    (built : (s.graph.get id).built) (h : s.graph.ReadsClass source.root id) :
    s'.graph.ReadsClass source.root id := by
  induction steps with
  | refl => exact h
  | @tail t t' steps step ih =>
    have before : Steps source floor s t := steps
    have sound' := before.sound sound
    have built' := before.kept.built built
    obtain ⟨same, enums⟩ := step.of_built sound'.nesting built'
    exact ih.mono step.kept.hasPath (ClassGraph.lt_size_of_built built') same.kind same.properties
      same.base enums fun _ isBase => step.properties_of_base sound' isBase

def NewReads (root : Node) (s s' : BuildState) : Prop :=
  ∀ id, s.graph.size ≤ id → id < s'.graph.size → s'.graph.ReadsClass root id

theorem NewReads.of_size_eq {root : Node} (size : s'.graph.size = s.graph.size) :
    NewReads root s s' :=
  fun _ le lt => absurd lt (Nat.not_lt.2 (size ▸ le))

theorem NewReads.steps {t : BuildState} (h : NewReads source.root s t) (sound : t.Sound source)
    (finished : Finished s t) (steps : Steps source floor t s') {id : ClassId}
    (le : s.graph.size ≤ id) (lt : id < t.graph.size) : s'.graph.ReadsClass source.root id :=
  steps.readsClass sound (finished id le lt) (h id le lt)

theorem NewReads.trans {t : BuildState} (h : NewReads source.root s t) (sound : t.Sound source)
    (finished : Finished s t) (steps : Steps source floor t s')
    (h' : NewReads source.root t s') : NewReads source.root s s' := by
  intro id le lt
  rcases Nat.lt_or_ge id t.graph.size with old | new
  · exact h.steps sound finished steps le old
  · exact h' id new lt

theorem BuildState.hasPath_change {f : ClassModel → ClassModel} (inside : id < s.graph.size)
    (path : (f (s.graph.get id)).path = (s.graph.get id).path) {other : ClassId} {path' : String}
    (h : s.graph.HasPath other path') : (s.change id f).graph.HasPath other path' := by
  refine ⟨by simpa using h.inside, ?_⟩
  by_cases eq : other = id
  · subst eq
    rw [s.change_get_self inside, path, h.path]
  · rw [s.change_get_of_ne eq, h.path]

/-- A class that gets the properties of schemas has their content. -/
theorem BuildState.readsContent_change {root : Node} {f : ClassModel → ClassModel}
    (inside : id < s.graph.size) (path : (f (s.graph.get id)).path = (s.graph.get id).path)
    (enums : (f (s.graph.get id)).enums = (s.graph.get id).enums) {schemas : List PropertySchema}
    (read : Threaded (s.graph.ReadsProperty root id) schemas [] (f (s.graph.get id)).properties
      (s.graph.get id).enums) : (s.change id f).graph.ReadsContent root id schemas := by
  unfold ClassGraph.ReadsContent
  rw [s.change_get_self inside, enums]
  exact read.mono (·.mono (hasPath_change inside path))

/-- A class that is filled from its schema is read. -/
theorem BuildState.readsClass_change {root node : Node} {f : ClassModel → ClassModel}
    (inside : id < s.graph.size) (within : root.Within node)
    (path : (s.graph.get id).path = node.path)
    (same : (f (s.graph.get id)).path = (s.graph.get id).path)
    (enums : (f (s.graph.get id)).enums = (s.graph.get id).enums)
    (kind : (f (s.graph.get id)).kind = .plain ∨ (f (s.graph.get id)).kind = .data)
    (noChoice : node.isChoice = false) {base? : Option Node} {schemas : List PropertySchema}
    (parts : root.parts node = .ok (base?, schemas))
    (base : Option.Rel (fun base target => s.graph.HasPath base target.path)
      (f (s.graph.get id)).base base?)
    (read : Threaded (s.graph.ReadsProperty root id) schemas [] (f (s.graph.get id)).properties
      (s.graph.get id).enums) : (s.change id f).graph.ReadsClass root id := by
  have self := s.change_get_self inside f
  obtain ⟨notOpen, notVariant⟩ := ClassKind.ne_of_plain_or_data kind
  refine .filled within (by rw [self, same, path]) parts ?_ ?_ ?_
    (readsContent_change inside same enums read)
  · rwa [self]
  · simp [self, notOpen, noChoice]
  · rw [self]
    generalize (f (s.graph.get id)).base = base' at base
    cases base with
    | some found => exact .some (hasPath_change inside same found)
    | none => exact .none

/-- Calling a class complete keeps all readings. -/
theorem BuildState.readsClass_complete {root : Node} (inside : id < s.graph.size) {other : ClassId}
    (lt : other < s.graph.size) (h : s.graph.ReadsClass root other) :
    (s.change id fun model => { model with built := true }).graph.ReadsClass root other := by
  have same (other : ClassId) : ∃ built,
      (s.change id fun model => { model with built := true }).graph.get other =
        { s.graph.get other with built } := by
    by_cases eq : other = id
    · subst eq
      exact ⟨true, s.change_get_self inside _⟩
    · exact ⟨_, s.change_get_of_ne eq _⟩
  obtain ⟨_, eq⟩ := same other
  refine h.mono (hasPath_change inside rfl) lt (by rw [eq]) (by rw [eq]) (by rw [eq]) (by rw [eq])
    fun base _ => ?_
  obtain ⟨_, eq'⟩ := same base
  rw [eq']

/-- Filling a class that is not new keeps the readings of the new ones, unless one of these is
composed from it and it gets other properties. -/
theorem NewReads.change {root : Node} {t : BuildState} (h : NewReads root s t)
    {f : ClassModel → ClassModel} (inside : id < t.graph.size) (old : id < s.graph.size)
    (path : (f (t.graph.get id)).path = (t.graph.get id).path)
    (properties : (f (t.graph.get id)).properties = (t.graph.get id).properties ∨
      ∀ other, (t.graph.get other).base ≠ some id) : NewReads root s (t.change id f) := by
  intro other le lt
  rw [t.change_size] at lt
  have ne : other ≠ id := Nat.ne_of_gt (Nat.lt_of_lt_of_le old le)
  have same := t.change_get_of_ne ne f
  refine (h other le lt).mono (BuildState.hasPath_change inside path) lt (by rw [same])
    (by rw [same]) (by rw [same]) (by rw [same]) fun base isBase => ?_
  · by_cases eq : base = id
    · subst eq
      rw [t.change_get_self inside]
      exact properties.resolve_right fun unreached => unreached other isBase
    · rw [t.change_get_of_ne eq]

end

end SchemaClasses
