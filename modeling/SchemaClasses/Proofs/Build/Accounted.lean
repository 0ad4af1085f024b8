import SchemaClasses.Generation
import SchemaClasses.Proofs.Build.Described
import SchemaClasses.Proofs.Build.Termination

/-!
# What accounts for the failures of a build

Each builder keeps the properties of all classes those of schemas of the document, given that the
builders it calls do. Where one fails, something in the document accounts for it. A target that is
met again while it is in progress leads to itself, because everything that is built on the way is
used by what it is built for. A class that had been begun before the target was entered is not built
again, so that it is not on the way back.

## Main definitions

* `Node.Entered`: how a build comes to a schema.
* `Builders.Accounted`: builders for whose failures the document accounts.
* `Request.schemas`: the schemas whose classes a request asks for.

## Main statements

* `requestedClasses_accounted`: what the classes of a request say, and what accounts for it if there
  are none.
-/

namespace SchemaClasses

/-! ## Targets in progress -/

structure Resolved.IsAlias (root : Node) (resolved : Resolved) : Prop where
  isOf : ∃ reference, resolved.IsOf root reference
  noClass : isClassSchema resolved.target true = .ok false

/-- A way leads from a class, which a build begins after earlier ones, to the target of a pointer and
on to a schema. The classes on the first part and the earlier ones have been passed, and none of them
lies on the second part. -/
structure Node.LeadsThrough (root : Node) (earlier : List Node) (start node : Node)
    (resolved : Resolved) (passed : List String) : Prop where
  isAlias : resolved.IsAlias root
  before : ∀ other ∈ earlier, root.Cuts other → other.path ∈ passed
  there : Relation.ReflTransGen (root.UsesVia (·.path ∈ passed)) start resolved.target
  back : Relation.ReflTransGen (root.UsesVia (·.path ∉ passed)) resolved.target node

/-- How a build that begins with some classes comes to a schema: from one of them, through classes
that have been begun, and through the targets of the pointers in progress. Where the document has an
extension, which accounts for every cycle, nothing is said. -/
inductive Node.Entered (root : Node) (starts : List Node) (stage : Stage)
    (node : Node) : Prop
  | extension {other : Node} (within : root.Within other) (isExtension : other.has "allOf")
  | leads {earlier later : List Node} {start : Node} (split : starts = earlier ++ start :: later)
      (before : ∀ other ∈ earlier, root.Cuts other → other.path ∈ stage.begun)
      (there : Relation.ReflTransGen (root.UsesVia (·.path ∈ stage.begun)) start node)
      (through : ∀ pointer ∈ stage.entered, ∃ resolved, ∃ passed ⊆ stage.begun,
        Pointer.canonical resolved.pointer = pointer ∧
        root.LeadsThrough earlier start node resolved passed)

/-- A build that has come to a schema comes to all that the schema uses. -/
def Node.Opened (root : Node) (starts : List Node) (stage : Stage) (node : Node) : Prop :=
  ∀ other, root.Uses node other → root.Entered starts stage other

section

variable {root node other : Node} {starts earlier later : List Node} {via : Node → Prop}
  {stage : Stage}

theorem Node.Refers.not_cuts (h : root.Refers node other) : ¬root.Cuts node := by
  intro cuts
  have isClass := cuts.isClass
  rw [not_isClass_of_reference h.1] at isClass
  cases isClass

theorem Node.Refers.usesVia (h : root.Refers node other) : root.UsesVia via node other :=
  ⟨h.2, fun cuts => absurd cuts h.not_cuts⟩

theorem Node.Entered.of_start (split : starts = earlier ++ node :: later)
    (before : ∀ other ∈ earlier, root.Cuts other → other.path ∈ stage.begun)
    (outermost : stage.entered = []) : root.Entered starts stage node := by
  refine .leads split before .refl fun pointer mem => ?_
  rw [outermost] at mem
  cases mem

/-- A build that enters a schema comes to all that it uses, unless the schema is a class that is
begun. -/
theorem Node.Entered.opened (h : root.Entered starts stage node) (uncut : ¬root.Cuts node) :
    root.Opened starts stage node := by
  intro other uses
  have step (via : Node → Prop) : root.UsesVia via node other :=
    ⟨uses, fun cuts => absurd cuts uncut⟩
  cases h with
  | extension within isExtension => exact .extension within isExtension
  | leads split before there through =>
    refine .leads split before (there.tail (step _)) fun pointer mem => ?_
    obtain ⟨resolved, passed, subset, same, leads⟩ := through pointer mem
    exact ⟨resolved, passed, subset, same, { leads with back := leads.back.tail (step _) }⟩

/-- A class that has not been begun on the way is on no part of it before it is begun. -/
theorem Node.Entered.begin (h : root.Entered starts stage node)
    (fresh : node.path ∉ stage.begun) : root.Opened starts (stage.begin node.path) node := by
  intro other uses
  cases h with
  | extension within isExtension => exact .extension within isExtension
  | leads split before there through =>
    have grown : stage.begun ⊆ (stage.begin node.path).begun := List.subset_cons_self _ _
    have more : root.UsesVia (·.path ∈ stage.begun) ≤
        root.UsesVia (·.path ∈ (stage.begin node.path).begun) :=
      fun _ _ step => ⟨step.1, fun cuts => grown (step.2 cuts)⟩
    have there' := (Relation.ReflTransGen.mono more _ _ there).tail
      ⟨uses, fun _ => List.mem_cons_self⟩
    refine .leads split (fun _ mem cuts => grown (before _ mem cuts)) there' fun pointer mem => ?_
    obtain ⟨resolved, passed, subset, same, leads⟩ := through pointer mem
    have back := leads.back.tail ⟨uses, fun _ mem => fresh (subset mem)⟩
    exact ⟨resolved, passed, List.Subset.trans subset grown, same, { leads with back }⟩

theorem Node.Entered.refers (h : root.Entered starts stage node)
    (leads : Relation.ReflTransGen root.Refers node other) : root.Entered starts stage other := by
  induction leads with
  | refl => exact h
  | tail _ step ih => exact ih.opened step.not_cuts _ step.2

/-- The schema of an alternative is what following the alternative leads to. -/
theorem exists_follow_of_alternativeSchema {source : Source} {keyword name : String}
    {schema : Node} (within : source.root.Within node)
    (found : alternativeSchema source keyword node = .ok (schema, name)) :
    ∃ resolved, follow source.root node = .ok resolved ∧ resolved.target = schema ∧
      Relation.ReflTransGen source.root.Refers node schema := by
  unfold alternativeSchema at found
  split at found
  · rename_i isReference
    obtain ⟨resolved, follows, found⟩ := Except.bind_eq_ok_iff.1 found
    obtain ⟨_, -, found⟩ := Except.bind_eq_ok_iff.1 found
    cases found
    exact ⟨resolved, follows, rfl,
      (within.refers_of_follow isReference follows).1.to_reflTransGen⟩
  · rename_i direct
    split at found
    · cases found
    · obtain ⟨_, -, found⟩ := Except.bind_eq_ok_iff.1 found
      cases found
      refine ⟨⟨"", node⟩, ?_, rfl, .refl⟩
      rw [follow, followFrom, Node.member?_eq_none direct]

/-- A schema that is no class is entered again when its pointer has been put in progress. -/
theorem Node.Entered.enter {resolved : Resolved}
    (h : root.Entered starts stage resolved.target) (isAlias : resolved.IsAlias root) :
    root.Entered starts (stage.enter (Pointer.canonical resolved.pointer)) resolved.target := by
  cases h with
  | extension within isExtension => exact .extension within isExtension
  | leads split before there through =>
    refine .leads split before there fun pointer mem => ?_
    rcases List.mem_cons.1 mem with rfl | mem
    · exact ⟨resolved, stage.begun, List.Subset.refl _, rfl, isAlias, before, there, .refl⟩
    · exact through pointer mem

/-- A target that is in progress and is met again. -/
theorem Node.Entered.causes (h : root.Entered starts stage node) {resolved : Resolved}
    (isAlias : resolved.IsAlias root) (leads : Relation.TransGen root.Refers node resolved.target)
    (again : Pointer.canonical resolved.pointer ∈ stage.entered) (pointer reason : String) :
    root.BuildCauses starts (.cyclicReference pointer reason) := by
  cases h with
  | extension within isExtension => exact .ofCauses (.extension pointer reason within isExtension)
  | leads split _ _ through =>
    obtain ⟨resolved', passed, -, same, leads'⟩ := through _ again
    obtain ⟨reference, isOf⟩ := isAlias.isOf
    obtain ⟨reference', isOf'⟩ := leads'.isAlias.isOf
    obtain ⟨source, within, link⟩ := isOf.link
    obtain ⟨source', within', link'⟩ := isOf'.link
    by_cases plain : Pointer.isPlain reference
    · by_cases plain' : Pointer.isPlain reference'
      · have target := isOf'.target_eq isOf plain' plain same
        have onward : Relation.TransGen (root.UsesVia (·.path ∉ passed)) node resolved.target :=
          Relation.TransGen.mono (fun _ _ => Node.Refers.usesVia) _ _ leads
        have returns := Relation.TransGen.trans_right (target ▸ leads'.back) onward
        exact .cycle pointer reason
          ⟨isAlias.noClass, source, reference, within, link, isOf.found⟩
          ⟨_, _, _, _, split, leads'.before, target ▸ leads'.there, returns⟩
      · exact .ofCauses (.unusual pointer reason within' link' plain')
    · exact .ofCauses (.unusual pointer reason within link plain)

/-- A chain of references that goes round in a loop. -/
theorem Node.Entered.causes_of_loops (h : root.Entered starts stage node) (loops : root.Loops node)
    (pointer reason : String) : root.BuildCauses starts (.cyclicReference pointer reason) := by
  cases h with
  | extension within isExtension => exact .ofCauses (.extension pointer reason within isExtension)
  | leads split before there _ =>
    obtain ⟨target, isAlias, leads, returns⟩ := loops
    refine .cycle pointer reason isAlias ⟨_, _, _, _, split, before, ?_, ?_⟩
    · exact there.trans (Relation.ReflTransGen.mono (fun _ _ => Node.Refers.usesVia) _ _ leads)
    · exact Relation.TransGen.mono (fun _ _ => Node.Refers.usesVia) _ _ returns

theorem Node.Entered.follow_error (h : root.Entered starts stage node) (within : root.Within node)
    {failure : Failure} (fails : follow root node = .error failure) :
    root.BuildCauses starts failure := by
  rcases Node.follow_error within fails with cause | ⟨⟨pointer, reason, rfl⟩, loops⟩
  · exact .ofCauses cause
  · exact h.causes_of_loops loops pointer reason

end

/-! ## Builders -/

/-- Builders for whose failures a document accounts, at any stage of a build that begins with some
classes. -/
structure Builders.Accounted (root : Node) (starts : List Node) (builders : Builders) : Prop where
  classFor : ∀ {node : Node} {s : BuildState} {stage : Stage} (fallback : String)
    (referencing : Option ClassId), s.Describes root stage → root.Within node →
    root.Entered starts stage node → isClassSchema node true = .ok true →
    Build.Accounted root starts (stage.begin node.path) s
      (builders.classFor node fallback referencing) fun id size => id < size
  typeFor : ∀ {node : Node} {s : BuildState} {stage : Stage} {owner : ClassId}
    (nameHint : String), s.Describes root stage → root.Within node → root.Entered starts stage node →
    owner < s.graph.size →
    Build.Accounted root starts stage s (builders.typeFor node nameHint owner)
      fun built size => built.1.Described root size ∧ root.Within built.2

section

variable {source : Source} {builders : Builders} {node : Node} {s : BuildState} {owner : ClassId}
  {starts : List Node} {stage : Stage}

open Build

theorem direct_of_isClass {allowEmpty : Bool} (isClass : isClassSchema node allowEmpty = .ok true) :
    ¬node.has "$ref" := by
  intro isReference
  rw [not_isClass_of_reference isReference] at isClass
  cases isClass

/-- The members of `allOf` whose properties belong to the extension are no references. -/
theorem direct_of_splitAllOf {members reference : Node} {inline : List Node}
    (h : splitAllOf node members = .ok (reference, inline)) :
    ∀ part ∈ inline, ¬part.has "$ref" := by
  unfold splitAllOf at h
  simp only at h
  split at h
  · cases h
  · split at h
    · cases h
    · split at h
      · obtain ⟨_, -, h⟩ := Except.bind_eq_ok_iff.1 h
        cases h
        intro part mem
        simpa using (List.mem_filter.1 mem).2
      · cases h

/-! ## Types -/

theorem primitiveType_described {name : String} {format : Value} {type : TypeRef}
    (h : primitiveType name format = .ok type) (root : Node) (size : Nat) :
    type.Described root size := by
  obtain ⟨kind, rfl⟩ := eq_primitive_of_primitiveType h
  exact .primitive kind format

theorem anyType_described (root : Node) (size : Nat) : anyType.Described root size :=
  .primitive .any .null

theorem anySequence_described (root : Node) (size : Nat) :
    (TypeRef.sequence anyType []).Described root size :=
  .sequence (anyType_described root size) fun _ mem => by cases mem

/-- An enum has the values of its schema and is declared in the class being built. -/
theorem buildEnum_accounted {root : Node} (describes : s.Describes root stage)
    (within : root.Within node) (nameHint : String) (inside : owner < s.graph.size) :
    Accounted root starts stage s (buildEnum node nameHint owner) fun type size =>
      type.Described root size := by
  unfold buildEnum
  apply Accounted.ofExcept_bind (Node.enumValues_accounts root node)
  intro values _
  apply Accounted.ofExcept_bind (Node.typeNames_accounts within)
  intro types _
  split
  · exact .unsupported _ _
  · apply Accounted.graph_bind
    split
    · rename_i definition declared
      have mem := List.mem_of_find?_eq_some declared
      exact .pure describes (.enum (describes.enums owner definition mem))
    · apply Accounted.ofExcept_bind (Node.className_accounts root _ _)
      intro name _
      apply Accounted.ofExcept_bind (Node.checkFreeIn_accounts root _ _ _ _)
      intro _ _
      refine .of_run rfl (describes.change ?_ (describes.properties owner)) (by simp)
        (.enum inside)
      intro definition mem
      rcases List.mem_append.1 mem with mem | mem
      · exact describes.enums owner definition mem
      · obtain rfl := List.mem_singleton.1 mem
        exact inside

/-- A reference is followed with its target in progress, so that the schema behind it has been
entered by way of it. -/
theorem buildReference_accounted (h : builders.Accounted source.root starts)
    (describes : s.Describes source.root stage) (within : source.root.Within node)
    (isEntered : source.root.Entered starts stage node) (isReference : node.has "$ref")
    (inside : owner < s.graph.size) :
    Accounted source.root starts stage s (buildReference source builders node owner)
      fun built size => built.1.Described source.root size ∧ source.root.Within built.2 := by
  unfold buildReference
  apply Accounted.ofExcept_bind_of_causes fun _ => isEntered.follow_error within
  intro resolved found
  have target := within.follow found
  obtain ⟨leads, reference, isOf⟩ := within.refers_of_follow isReference found
  have targetEntered := isEntered.refers leads.to_reflTransGen
  apply Accounted.ofExcept_bind (Node.isClassSchema_accounts target true)
  intro isClass asked
  split
  · rename_i yes
    have built := h.classFor (Pointer.tail resolved.pointer) (some owner) describes target
      targetEntered (yes ▸ asked)
    apply Accounted.bind built.finish
    intro id s' describes' _ inside'
    exact .pure describes' ⟨.ofClass inside', target⟩
  · rename_i no
    have isAlias : resolved.IsAlias source.root :=
      ⟨⟨reference, isOf⟩, by simpa using Bool.eq_false_of_not_eq_true no ▸ asked⟩
    apply Accounted.get_bind
    simp only
    split
    · rename_i again
      rw [describes.inProgress] at again
      exact .throw (isEntered.causes isAlias leads again _ _)
    · obtain ⟨origin, originWithin, link⟩ := isOf.link
      have resolves := Node.resolve_accounts originWithin link (.inr isOf.pointer)
      apply Accounted.set_bind
      apply Accounted.bind (Accounted.releasing (P := fun built size =>
        built.1.Described source.root size ∧ source.root.Within built.2) ?_)
      · intro built s' describes' _ described
        exact .pure describes' ⟨described.1, target⟩
      · apply Accounted.ofExcept_bind resolves
        intro _ _
        exact h.typeFor _ (describes.enter _) target (targetEntered.enter isAlias) inside

/-- A class is the schema of nothing else. -/
theorem Node.eq_ofClass_of_form (isClass : isClassSchema node false = .ok true) {form : Form}
    (isForm : node.form = .ok form) : form = .ofClass := by
  have noChoice : node.beside? = none := by
    cases beside : node.beside? with
    | none => rfl
    | some alternative =>
      have found := (Option.filter_eq_some_iff.1 beside).1
      obtain ⟨_, _, isChoice, member, -⟩ := Node.mem_of_nullableAlternative? found
      rw [Node.nullableAlternative?_of_isClass (isClassSchema_true isClass)
        (Node.isComposed_of_member? isChoice member)] at found
      cases found
  have apart : ¬(!node.isObject || node.has "$ref" || node.has "enum") := by
    intro other
    rw [isClassSchema, if_pos other] at isClass
    cases isClass
  simp only [Bool.or_eq_true, not_or] at apart
  obtain ⟨⟨isObject, direct⟩, noEnum⟩ := apart
  rw [Node.form, if_neg direct, if_neg isObject] at isForm
  obtain ⟨types, -, isForm⟩ := Except.bind_eq_ok_iff.1 isForm
  simp only [if_neg noEnum, noChoice, isClass] at isForm
  cases isForm
  rfl

/-- Case by case over the forms of a schema: each of them opens the schemas that its type is made
of. -/
theorem buildForm_accounted (h : builders.Accounted source.root starts)
    (describes : s.Describes source.root stage) (within : source.root.Within node)
    (isEntered : source.root.Entered starts stage node) (nameHint : String)
    (inside : owner < s.graph.size) {form : Form} (isForm : node.form = .ok form) :
    Accounted source.root starts stage s (buildForm source builders node nameHint owner form)
      fun built size => built.1.Described source.root size ∧ source.root.Within built.2 := by
  have opened (other : form ≠ .ofClass) : source.root.Opened starts stage node :=
    isEntered.opened fun cuts => other (Node.eq_ofClass_of_form cuts.isClass isForm)
  cases Node.HasForm.of_form isForm with
  | reference isReference =>
    exact buildReference_accounted h describes within isEntered isReference inside
  | any => exact .pure describes ⟨anyType_described _ _, within⟩
  | enum =>
    apply Accounted.bind (buildEnum_accounted describes within nameHint inside)
    intro type s' describes' _ described
    exact .pure describes' ⟨described, within⟩
  | nullable direct beside =>
    obtain ⟨keyword, alternatives, isChoice, found, mem⟩ :=
      Node.mem_of_nullableAlternative? (Option.filter_eq_some_iff.1 beside).1
    have composes : keyword ∈ compositionKeywords := by
      rcases isChoice with rfl | rfl <;> simp [compositionKeywords]
    exact h.typeFor nameHint describes ((within.member? found).items mem)
      (opened (by simp) _ (.of_alternative direct composes found mem)) inside
  | ofClass isClass =>
    apply Accounted.bind (h.classFor nameHint (some owner) describes within isEntered
      (isClassSchema_true isClass)).finish
    intro id s' describes' _ inside'
    exact .pure describes' ⟨.ofClass inside', within⟩
  | anySequence => exact .pure describes ⟨anySequence_described _ _, within⟩
  | sequence direct found =>
    apply Accounted.bind (h.typeFor nameHint describes (within.member? found)
      (opened (by simp) _ (.of_part direct (.inl rfl) found)) inside)
    intro built s' describes' _ described
    apply Accounted.ofExcept_bind (Node.constraintsFor_accounts described.2 built.1)
    intro constraints collected
    refine .pure describes' ⟨.sequence described.1 ?_, within⟩
    intro constraint mem
    exact ⟨built.2, described.2, stems_of_constraintsFor collected constraint mem⟩
  | map direct found =>
    apply Accounted.bind (h.typeFor nameHint describes (within.member? found)
      (opened (by simp) _ (.of_part direct (.inr rfl) found)) inside)
    intro built s' describes' _ described
    exact .pure describes' ⟨.map described.1, within⟩
  | plain isPrimitive => exact .pure describes ⟨primitiveType_described isPrimitive _ _, within⟩

/-- The type of a schema is the type of its form. -/
theorem buildType_accounted (h : builders.Accounted source.root starts)
    (describes : s.Describes source.root stage) (within : source.root.Within node)
    (isEntered : source.root.Entered starts stage node) (nameHint : String)
    (inside : owner < s.graph.size) :
    Accounted source.root starts stage s (buildType source builders node nameHint owner)
      fun built size => built.1.Described source.root size ∧ source.root.Within built.2 := by
  rw [buildType_eq]
  apply Accounted.ofExcept_bind (Node.form_accounts within)
  intro form isForm
  exact buildForm_accounted h describes within isEntered nameHint inside isForm

/-! ## Properties -/

/-- A default is checked against the type before it is kept. -/
theorem isDefaultFor_of_propertyDefault {type : TypeRef} {isRequired : Bool}
    {default? : Option Value} (h : propertyDefault node type isRequired = .ok default?) :
    ∀ value ∈ default?, isDefaultFor type value ∧ node.valueOf "default" = value := by
  unfold propertyDefault at h
  simp only at h
  split at h
  · cases h
    intro value mem
    cases mem
  · split at h
    · rename_i fits
      cases h
      intro value mem
      obtain rfl := Option.mem_some_iff.1 mem
      exact ⟨fits, rfl⟩
    · obtain ⟨_, -, h⟩ := Except.bind_eq_ok_iff.1 h
      cases h

/-- The keywords are read from the schema that the type leads to, which may be the target of a
reference. -/
theorem buildProperty_accounted {root : Node} (h : builders.Accounted root starts)
    (describes : s.Describes root stage) (within : root.Within node)
    (isEntered : root.Entered starts stage node) (name : String) (isRequired : Bool)
    (inside : owner < s.graph.size) :
    Accounted root starts stage s (buildProperty builders name node isRequired owner)
      fun property size => property.Described root size := by
  unfold buildProperty
  split
  · exact .unsupported _ _
  · apply Accounted.bind (h.typeFor name describes within isEntered inside)
    intro built s' describes' _ described
    apply Accounted.ofExcept_bind (Node.propertyDefault_accounts within built.1 isRequired)
    intro default? hdefault
    apply Accounted.ofExcept_bind (Node.constraintsFor_accounts described.2 built.1)
    intro constraints collected
    refine .pure describes' ⟨described.1, ?_, ?_⟩
    · intro constraint mem
      rcases List.mem_append.1 mem with mem | mem
      · left
        split at mem
        · exact List.mem_singleton.1 mem
        · cases mem
      · exact .inr ⟨built.2, described.2, stems_of_constraintsFor collected constraint mem⟩
    · intro value mem
      obtain ⟨fits, given⟩ := isDefaultFor_of_propertyDefault hdefault value mem
      exact ⟨fits, node, within, given⟩

/-- The schemas of properties are used by the class, so that all of them have been entered when it
has been opened. -/
theorem buildProperties_accounted {root : Node} (h : builders.Accounted root starts)
    (describes : s.Describes root stage) (within : root.Within node)
    (opened : root.Opened starts stage node) (direct : ¬node.has "$ref")
    (inside : owner < s.graph.size) (skipped : List String) :
    Accounted root starts stage s (buildProperties builders node owner skipped)
      fun properties size => ∀ property ∈ properties, property.Described root size := by
  have build {properties : Node} (found : node.member? "properties" = some properties)
      (required : List Value) : Accounted root starts stage s
        (buildProperties.build builders owner skipped properties required)
        fun properties size => ∀ property ∈ properties, property.Described root size := by
    have mono (property : Property) (size size' : Nat) (le : size ≤ size')
        (described : property.Described root size) : property.Described root size' :=
      described.mono le
    unfold buildProperties.build
    apply Accounted.mapM mono describes
    intro member mem s' describes' le
    have isMember := (List.mem_filter.1 mem).1
    exact buildProperty_accounted h describes' ((within.member? found).members isMember)
      (opened _ (.of_property direct found isMember)) _ _ (Nat.lt_of_lt_of_le inside le)
  unfold buildProperties
  split
  · apply Accounted.pure describes
    intro property mem
    cases mem
  · rename_i properties found
    split
    · exact .unsupported _ _
    · split
      · exact build found []
      · split
        · exact build found _
        · exact .unsupported _ _

/-! ## Extensions -/

/-- A property that is kept is one of those from before or one of the added ones. -/
theorem mem_of_addProperties {inherited : List String} {own properties all : List Property}
    (h : addProperties inherited own properties = .ok all) :
    ∀ property ∈ all, property ∈ own ∨ property ∈ properties := by
  induction properties generalizing own with
  | nil =>
    cases h
    intro property mem
    exact .inl mem
  | cons first rest ih =>
    unfold addProperties at h
    split at h
    · cases h
    · intro property mem
      rcases ih h property mem with mem | mem
      · rcases List.mem_append.1 mem with mem | mem
        · exact .inl mem
        · exact .inr (List.mem_singleton.1 mem ▸ List.mem_cons_self)
      · exact .inr (List.mem_cons_of_mem _ mem)

/-- The parts of an extension are added one after the other, each in the graph that the part before
it has left. -/
theorem addParts_accounted {root : Node} (h : builders.Accounted root starts)
    (describes : s.Describes root stage) {parts : List Node}
    (areParts : ∀ part ∈ parts, root.Within part ∧ root.Opened starts stage part ∧ ¬part.has "$ref")
    (inside : owner < s.graph.size) (inherited : List String) {own : List Property}
    (described : ∀ property ∈ own, property.Described root s.graph.size) :
    Accounted root starts stage s (addParts builders owner inherited own parts)
      fun properties size => ∀ property ∈ properties, property.Described root size := by
  induction parts generalizing s own with
  | nil => exact .pure describes described
  | cons part rest ih =>
    obtain ⟨within, opened, direct⟩ := areParts part List.mem_cons_self
    unfold addParts
    apply Accounted.bind
      (buildProperties_accounted h describes within opened direct inside [])
    intro properties s' describes' le new
    apply Accounted.ofExcept_bind (Node.addProperties_accounts root _ _ _)
    intro all added
    apply ih describes' (fun part mem => areParts part (List.mem_cons_of_mem _ mem))
      (Nat.lt_of_lt_of_le inside le)
    intro property mem
    rcases mem_of_addProperties added property mem with mem | mem
    · exact (described property mem).mono le
    · exact new property mem

/-- The extension itself accounts for any cycle that its base leads into. -/
theorem buildBase_accounted (h : builders.Accounted source.root starts)
    (describes : s.Describes source.root stage) {reference : Node}
    (within : source.root.Within reference) (nodeWithin : source.root.Within node)
    (isExtension : node.has "allOf") (id : ClassId) :
    Accounted source.root starts stage s (buildBase source builders id reference)
      fun _ _ => True := by
  have isEntered (other : Node) : source.root.Entered starts stage other :=
    .extension nodeWithin isExtension
  unfold buildBase
  apply Accounted.ofExcept_bind_of_causes fun _ => (isEntered reference).follow_error within
  intro resolved found
  apply Accounted.ofExcept_bind (Node.isClassSchema_accounts (within.follow found) true)
  intro isClass asked
  split
  · exact .unsupported _ _
  · rename_i yes
    obtain rfl : isClass = true := by simpa using yes
    apply Accounted.bind (h.classFor _ (some id) describes (within.follow found)
      (isEntered _) asked).finish
    intro base s' describes' _ _
    apply Accounted.graph_bind
    simp only
    split
    · exact .throw (.ofCauses (.extension _ _ nodeWithin isExtension))
    · split
      · exact .unsupported _ _
      · exact .pure describes' trivial

/-- The base comes first, and then the parts whose properties the extension has. All of them count as
entered by way of the extension. -/
theorem buildExtension_accounted (h : builders.Accounted source.root starts)
    (describes : s.Describes source.root stage) (within : source.root.Within node)
    (direct : ¬node.has "$ref") {members : Node} (found : node.member? "allOf" = some members)
    (inside : owner < s.graph.size) :
    Accounted source.root starts stage s (buildExtension source builders owner node members)
      fun _ _ => True := by
  have isExtension := Node.has_of_member? found
  unfold buildExtension
  apply Accounted.ofExcept_bind (Node.splitAllOf_accounts (within.member? found))
  intro split hsplit
  obtain ⟨mem, -, areInline⟩ := mem_of_splitAllOf hsplit
  have base := buildBase_accounted h describes ((within.member? found).items mem) within
    isExtension owner
  apply Accounted.bind base
  intro base s' describes' le _
  apply Accounted.graph_bind
  have areParts : ∀ part ∈ split.2 ++ [node], source.root.Within part ∧
      source.root.Opened starts stage part ∧ ¬part.has "$ref" := by
    intro part mem
    have opened : source.root.Opened starts stage part := fun _ _ => .extension within isExtension
    rcases List.mem_append.1 mem with mem | mem
    · exact ⟨(within.member? found).items (areInline part mem), opened,
        direct_of_splitAllOf hsplit part mem⟩
    · obtain rfl := List.mem_singleton.1 mem
      exact ⟨within, opened, direct⟩
  apply Accounted.bind (addParts_accounted h describes' areParts (Nat.lt_of_lt_of_le inside le) _
    fun _ mem => by cases mem)
  intro own s'' describes'' _ described
  exact .updateClass describes'' rfl described trivial

/-! ## Alternatives -/

/-- An alternative is begun in its base and gets its properties from a schema that has been
opened. -/
theorem buildVariant_accounted {root : Node} (h : builders.Accounted root starts)
    (describes : s.Describes root stage) (within : root.Within node)
    (opened : root.Opened starts stage node) (direct : ¬node.has "$ref") (base : ClassId)
    (shared : List String) (path name : String) :
    Accounted root starts stage s (buildVariant builders base shared path name node)
      fun _ _ => True := by
  unfold buildVariant
  apply Accounted.graph_bind
  apply Accounted.ofExcept_bind (Node.checkFreeIn_accounts root _ _ _ _)
  intro _ _
  apply Accounted.bind (P := fun id size => id < size)
  · unfold Accounted
    rw [createClass_apply]
    refine ⟨describes.declare rfl rfl, ?_, ?_⟩ <;> simp
  · intro variant s' describes' _ inside
    apply Accounted.bind
      (buildProperties_accounted h describes' within opened direct inside shared)
    intro properties s'' describes'' _ described
    exact .updateClass describes'' rfl described trivial

/-- The schema of an alternative is entered by way of the alternative. -/
theorem buildAlternative_accounted (h : builders.Accounted source.root starts)
    (describes : s.Describes source.root stage) {choice : Node}
    (isAlternative : source.root.HasAlternative choice node)
    (isEntered : source.root.Entered starts stage node) (base : ClassId) (keyword : String)
    (shared : List String) :
    Accounted source.root starts stage s
      (buildAlternative source builders base keyword shared node) fun _ _ => True := by
  have within := isAlternative.within
  unfold buildAlternative
  split
  · exact .unsupported _ _
  · have causes (failure : Failure)
        (fails : alternativeSchema source keyword node = .error failure) :
        source.root.BuildCauses starts failure :=
      (Node.alternativeSchema_error fails).elim .ofCauses (isEntered.follow_error within)
    apply Accounted.ofExcept_bind_of_causes causes
    intro named found
    have schemaWithin := within_of_alternativeSchema within found
    apply Accounted.ofExcept_bind (Node.isAlternativeSchema_accounts schemaWithin)
    intro canBe asked
    split
    · rename_i yes
      have direct : ¬named.1.has "$ref" := by
        subst yes
        unfold isAlternativeSchema at asked
        split at asked
        · cases asked
        · exact direct_of_isClass asked
      obtain ⟨resolved, follows, target, leads⟩ := exists_follow_of_alternativeSchema within found
      have opened := (isEntered.refers leads).opened fun cuts =>
        cuts.noAlternative _ _ _ isAlternative follows target
      exact buildVariant_accounted h describes schemaWithin opened direct base shared node.path
        named.2
    · exact .unsupported _ _

/-- The shared properties come first, and then the alternatives in order. -/
theorem buildAlternatives_accounted (h : builders.Accounted source.root starts)
    (describes : s.Describes source.root stage) (within : source.root.Within node)
    (opened : source.root.Opened starts stage node)
    (isClass : isClassSchema node true = .ok true) (inside : owner < s.graph.size) :
    Accounted source.root starts stage s (buildAlternatives source builders owner node)
      fun _ _ => True := by
  have direct := direct_of_isClass isClass
  unfold buildAlternatives
  split
  · exact .unsupported _ _
  · have isChoice : (if node.has "oneOf" then "oneOf" else "anyOf") = "oneOf" ∨
        (if node.has "oneOf" then "oneOf" else "anyOf") = "anyOf" := by
      split <;> simp
    have composes : (if node.has "oneOf" then "oneOf" else "anyOf") ∈ compositionKeywords := by
      rcases isChoice with eq | eq <;> simp [compositionKeywords, eq]
    simp only
    split
    · exact .pure describes trivial
    · rename_i alternatives found
      split
      · exact .unsupported _ _
      · have becomesBase : Accounted source.root starts stage s
            (Build.updateClass owner fun model => { model with kind := .openBase })
            fun _ size => owner < size :=
          .updateClass describes rfl (describes.properties owner) inside
        apply Accounted.bind becomesBase
        intro _ s₁ describes₁ _ inside₁
        apply Accounted.bind
          (buildProperties_accounted h describes₁ within opened direct inside₁ [])
        intro shared s₂ describes₂ _ described
        have filled : Accounted source.root starts stage s₂
            (Build.updateClass owner fun model => { model with properties := shared })
            fun _ _ => True :=
          .updateClass describes₂ rfl described trivial
        apply Accounted.bind filled
        intro _ s₃ describes₃ _ _
        apply Accounted.forM describes₃
        intro alternative mem s' describes' _
        exact buildAlternative_accounted h describes' (.of within isClass isChoice found mem)
          (opened _ (.of_alternative direct composes found mem)) _ _ _

/-! ## Classes -/

/-- The kind of a class decides which schemas it is filled from. -/
theorem fillClass_accounted (h : builders.Accounted source.root starts)
    (describes : s.Describes source.root stage) (within : source.root.Within node)
    (opened : source.root.Opened starts stage node) (isClass : isClassSchema node true = .ok true)
    (inside : owner < s.graph.size) :
    Accounted source.root starts stage s (fillClass source builders owner node) fun _ _ => True := by
  have direct := direct_of_isClass isClass
  unfold fillClass
  split
  · rename_i members found
    exact buildExtension_accounted h describes within direct found inside
  · split
    · exact buildAlternatives_accounted h describes within opened isClass inside
    · apply Accounted.bind (buildProperties_accounted h describes within opened direct inside [])
      intro properties s' describes' _ described
      exact .updateClass describes' rfl described trivial

/-- A class that has been begun is found again; another one is begun now, and by that it opens its
schema. -/
theorem buildClass_accounted (h : builders.Accounted source.root starts)
    (describes : s.Describes source.root stage) (within : source.root.Within node)
    (isEntered : source.root.Entered starts stage node) (isClass : isClassSchema node true = .ok true)
    (fallback : String) (referencing : Option ClassId) :
    Accounted source.root starts (stage.begin node.path) s
      (buildClass source builders node fallback referencing) fun id size => id < size := by
  cases cached : s.classOf.lookup node.path with
  | some id =>
    have begun : s.Describes source.root (stage.begin node.path) :=
      describes.begin (by rw [cached]; rfl)
    exact .of_run (buildClass_cached cached) begun rfl (describes.classOf cached)
  | none =>
    have run : buildClass source builders node fallback referencing s = _ := buildClass_fresh cached
    have fresh : node.path ∉ stage.begun := fun mem => by simpa [cached] using describes.begun _ mem
    cases hplacement : s.placement node fallback referencing with
    | error failure =>
      rw [hplacement] at run
      unfold Accounted
      rw [run]
      exact .ofCauses
        (Node.placement_accounts source.root s node fallback referencing failure hplacement)
    | ok placed =>
      obtain ⟨name, enclosing, reserved⟩ := placed
      rw [hplacement] at run
      have begun : BuildState.Describes source.root (stage.begin node.path)
          (s.begin reserved (blankClass source node name enclosing) referencing) :=
        describes.beginClass (blankClass source node name enclosing) rfl rfl reserved referencing
      have inside : s.graph.size < (s.begin reserved (blankClass source node name enclosing)
          referencing).graph.size := by simp
      have filled : Accounted source.root starts (stage.begin node.path)
          (s.begin reserved (blankClass source node name enclosing) referencing) (do
            fillClass source builders s.graph.size node
            Build.updateClass s.graph.size fun model => { model with built := true }
            return s.graph.size : Build ClassId) fun id size => id < size := by
        apply Accounted.bind (fillClass_accounted h begun within (isEntered.begin fresh) isClass
          inside)
        intro _ s₁ describes₁ le₁ _
        have complete : Accounted source.root starts (stage.begin node.path) s₁
            (Build.updateClass s.graph.size fun model => { model with built := true })
            fun _ size => s.graph.size < size :=
          .updateClass describes₁ rfl (describes₁.properties _) (Nat.lt_of_lt_of_le inside le₁)
        apply Accounted.bind complete
        intro _ s₂ describes₂ _ inside₂
        exact .pure describes₂ inside₂
      exact .of_eq run (Nat.le_of_lt inside) filled

def refusingBuilders : Builders where
  classFor node _ _ := Build.unsupported node.path ""
  typeFor node _ _ := Build.unsupported node.path ""

/-- By induction on the depth: the builders of one depth call those of the depth below it. -/
theorem buildersOver_accounted (source : Source) (starts : List Node) (depth : Nat) :
    (buildersOver source refusingBuilders depth).Accounted source.root starts := by
  induction depth with
  | zero =>
    constructor
    · intro _ _ _ _ _ _ _ _ _
      exact .unsupported _ _
    · intro _ _ _ _ _ _ _ _ _
      exact .unsupported _ _
  | succ depth ih =>
    constructor
    · intro _ _ _ fallback referencing describes within isEntered isClass
      exact buildClass_accounted ih describes within isEntered isClass fallback referencing
    · intro _ _ _ _ nameHint describes within isEntered inside
      exact buildType_accounted ih describes within isEntered nameHint inside

/-- The builders of a document never come to the end of their depth, where they would report a
cycle that there is not. -/
theorem Source.classFor_accounted (earlier later : List Node)
    (describes : s.Describes source.root stage) (outermost : stage.entered = [])
    (within : source.root.Within node) (isClass : isClassSchema node true = .ok true)
    (before : ∀ other ∈ earlier, other.path ∈ stage.begun) (fallback : String) :
    Accounted source.root (earlier ++ node :: later) (stage.begin node.path) s
      (source.builders.classFor node fallback none) fun id size => id < size := by
  rw [(source.builders_eq_buildersOver refusingBuilders within).1 fallback none]
  exact (buildersOver_accounted source _ _).classFor fallback none describes within
    (.of_start rfl (fun other mem _ => before other mem) outermost) isClass

end

/-! ## Requests -/

section

variable {source : Source} {s : BuildState}

open Build

theorem pinName_accounted {root : Node} (starts : List Node) (describes : s.Describes root {})
    (node : Node) (name : String) :
    Accounted root starts {} s (pinName node name) fun _ _ => True := by
  unfold pinName
  apply Accounted.get_bind
  apply Accounted.ofExcept_bind (Node.reserve_accounts root _ _ _)
  intro reserved _
  exact .of_run rfl (describes.of_eq rfl rfl rfl) rfl trivial

/-- The root is the only schema that the run begins with. -/
theorem buildRoot_accounted (describes : s.Describes source.root {}) (name? : Option String) :
    Accounted source.root [source.root] {} s (buildRoot source source.root name?)
      fun _ _ => True := by
  have registered : Accounted source.root [source.root] {} s (registerRoot source.root name?)
      fun _ _ => isClassSchema source.root true = .ok true := by
    unfold registerRoot
    apply Accounted.ofExcept_bind (Node.isClassSchema_accounts .root true)
    intro isClass asked
    split
    · exact .unsupported _ _
    · rename_i yes
      obtain rfl : isClass = true := by simpa using yes
      apply Accounted.ofExcept_bind (Node.className_accounts _ _ _)
      intro name _
      apply Accounted.bind (pinName_accounted _ describes _ _)
      intro _ s' describes' _ _
      exact .pure describes' asked
  unfold buildRoot
  apply Accounted.bind registered
  intro name s' describes' _ isClass
  have built := source.classFor_accounted [] [] describes' rfl .root isClass
    (fun _ mem => by cases mem) name
  exact built.finish.mono fun _ _ _ => trivial

/-- Members are registered without building anything: those that have a class, in their order. -/
theorem registerDefinitions_accounted {root : Node} (starts : List Node)
    (describes : s.Describes root {}) {entries : List Definition}
    (within : ∀ entry ∈ entries, root.Within entry.node) :
    Accounted root starts {} s (registerDefinitions entries) fun registered _ =>
      registered = entries.filter (·.hasClass) := by
  have accounted : Accounted root starts {} s (registerDefinitions entries) fun _ _ => True := by
    induction entries generalizing s with
    | nil => exact .pure describes trivial
    | cons entry rest ih =>
      have inside := within entry List.mem_cons_self
      have others {s' : BuildState} (describes' : s'.Describes root {}) :=
        ih describes' fun other mem => within other (List.mem_cons_of_mem _ mem)
      unfold registerDefinitions
      apply Accounted.ofExcept_bind (Node.isClassSchema_accounts inside true)
      intro isClass _
      split
      · apply Accounted.ofExcept_bind (Node.className_accounts root _ _)
        intro name _
        apply Accounted.bind (pinName_accounted starts describes _ _)
        intro _ s₁ describes₁ _ _
        apply Accounted.bind (others describes₁)
        intro registered s₂ describes₂ _ _
        exact .pure describes₂ trivial
      · exact others describes
  unfold Accounted at accounted ⊢
  cases run : registerDefinitions entries s with
  | ok registered s' =>
    rw [run] at accounted
    exact ⟨accounted.1, accounted.2.1, registerDefinitions_eq_filter run⟩
  | error failure s' =>
    rwa [run] at accounted

theorem Definition.isClass_of_hasClass {entry : Definition} (h : entry.hasClass) :
    isClassSchema entry.node true = .ok true := by
  unfold Definition.hasClass at h
  cases asked : isClassSchema entry.node true with
  | ok isClass =>
    rw [asked] at h
    simpa [Except.toOption] using h
  | error failure =>
    rw [asked] at h
    cases h

/-- Members are built one after another, and the classes of those before have been begun. -/
theorem mapM_buildDefinition_accounted {stage : Stage} (before rest : List Definition)
    (describes : s.Describes source.root stage) (outermost : stage.entered = [])
    (areClasses : ∀ entry ∈ rest, source.root.Within entry.node ∧ entry.hasClass)
    (begun : ∀ entry ∈ before, entry.node.path ∈ stage.begun) :
    Accounted source.root ((before ++ rest).map (·.node)) stage s
      (rest.mapM (buildDefinition source)) fun _ _ => True := by
  induction rest generalizing s stage before with
  | nil => exact .pure describes trivial
  | cons entry rest ih =>
    obtain ⟨within, hasClass⟩ := areClasses entry List.mem_cons_self
    have built := source.classFor_accounted (before.map (·.node)) (rest.map (·.node)) describes
      outermost within (Definition.isClass_of_hasClass hasClass) (by simpa using begun) entry.name
    have others {s' : BuildState}
        (describes' : s'.Describes source.root (stage.begin entry.node.path)) :
        Accounted source.root (((before ++ [entry]) ++ rest).map (·.node))
          (stage.begin entry.node.path) s' (rest.mapM (buildDefinition source))
          fun _ _ => True := by
      refine ih _ describes' outermost
        (fun other mem => areClasses other (List.mem_cons_of_mem _ mem)) fun other mem => ?_
      rcases List.mem_append.1 mem with mem | mem
      · exact List.mem_cons_of_mem _ (begun other mem)
      · obtain rfl := List.mem_singleton.1 mem
        exact List.mem_cons_self
    rw [List.append_assoc, List.singleton_append, List.map_append, List.map_cons] at others
    rw [List.mapM_cons, List.map_append, List.map_cons]
    apply Accounted.finish
    apply Accounted.bind built
    intro id s' describes' _ _
    apply Accounted.bind (others describes')
    intro ids s'' describes'' _ _
    exact .pure describes'' trivial

/-- The selected members are built one after the other; those before a member count as begun
earlier. -/
theorem buildDefinitions_accounted (describes : s.Describes source.root {})
    {entries : List Definition} (within : ∀ entry ∈ entries, source.root.Within entry.node) :
    Accounted source.root
      (((entries.filter (·.hasClass)).filter (·.selected)).map (·.node)) {} s (do
        let registered ← registerDefinitions entries
        (registered.filter (·.selected)).mapM (buildDefinition source)) fun _ _ => True := by
  apply Accounted.bind (registerDefinitions_accounted _ describes within)
  rintro registered s' describes' - rfl
  refine mapM_buildDefinition_accounted [] _ describes' rfl (fun entry mem => ?_) fun _ mem => by
    cases mem
  obtain ⟨mem, hasClass⟩ := List.mem_filter.1 (List.mem_filter.1 mem).1
  exact ⟨within entry mem, hasClass⟩

/-- The pointer of a request goes to an item of an array by digits that are no index. -/
def Request.HasBadIndex (request : Request) (failure : Failure) : Prop :=
  match request with
  | .root _ => False
  | .members pointer _ => Pointer.HasBadIndex pointer failure

/-- The schemas whose classes a request asks for, in order: the document, or the selected members of
a container that have classes. -/
def Request.schemas (request : Request) (document : Node) : List Node :=
  match request with
  | .root _ => [document]
  | .members pointer include? =>
    ((((definitions document pointer include?).toOption.getD []).filter (·.hasClass)).filter
      (·.selected)).map (·.node)

/-- What the state says after the classes of a request have been built, and what accounts for it if
they cannot be. -/
theorem buildRequested_accounted (source : Source) (request : Request) :
    match buildRequested source request {} with
    | .ok _ s => s.Describes source.root {}
    | .error failure _ => source.root.BuildCauses (request.schemas source.root) failure ∨
        request.HasBadIndex failure := by
  have describes := BuildState.Describes.of_empty source.root
  have conclude {step : Build (List ClassId)}
      (h : Accounted source.root (request.schemas source.root) {} {} step fun _ _ => True) :
      match step {} with
        | .ok _ s => s.Describes source.root {}
        | .error failure _ => source.root.BuildCauses (request.schemas source.root) failure ∨
            request.HasBadIndex failure := by
    split
    · rename_i run
      exact (h.of_ok run).1
    · rename_i run
      exact .inl (h.of_error run)
  unfold buildRequested
  cases request with
  | root name? =>
    apply conclude
    apply Accounted.bind (P := fun _ _ => True) (buildRoot_accounted describes name?)
    intro id s' describes' _ _
    exact .pure describes' trivial
  | members pointer include? =>
    cases found : definitions source.root pointer include? with
    | error failure =>
      simp only [found, Build.ofExcept_bind_error]
      change _ ∨ Pointer.HasBadIndex pointer failure
      rcases Except.bind_eq_error_iff.1 found with found | ⟨container, -, found⟩
      · exact (Node.resolve_error found).imp_left .ofCauses
      · split at found
        · cases found
          exact .inl (.ofCauses (.unresolved _ _))
        · cases found
    | ok entries =>
      simp only [found, Build.ofExcept_bind_ok]
      apply conclude
      have asked : (Request.members pointer include?).schemas source.root =
          ((entries.filter (·.hasClass)).filter (·.selected)).map (·.node) := by
        rw [Request.schemas, found]
        rfl
      rw [asked]
      exact buildDefinitions_accounted describes fun entry mem => .of_definitions found mem

end

/-- What the classes of a request say, and what accounts for it if there are none. -/
theorem requestedClasses_accounted (document : Node) (settings : Settings) (request : Request) :
    match requestedClasses document settings request with
    | .ok (graph, _) => ∀ id, ∀ property ∈ (graph.get id).properties,
        property.Described document graph.size
    | .error failure => document.BuildCauses (request.schemas document) failure ∨
        request.HasBadIndex failure := by
  have built := buildRequested_accounted ⟨document, settings.basePackage⟩ request
  unfold requestedClasses EStateM.run
  cases run : buildRequested ⟨document, settings.basePackage⟩ request {} with
  | ok owners s =>
    rw [run] at built
    exact built.properties
  | error failure s =>
    rw [run] at built
    exact built

end SchemaClasses
