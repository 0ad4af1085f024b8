import SchemaClasses.Proofs.Build.Reading

/-!
# Builders leave their classes read

A builder that succeeds leaves the new classes as they stand in their schemas, and so do all calls
of a run.

## Main definitions

* `SchemasRead`: what building the properties of schemas leaves behind.
* `AlternativesBegun`: a class with alternatives before these are declared in it.

## Main statements

* `Run.readsClass`: in a run in which everything has succeeded, all classes are read.
-/

namespace SchemaClasses

/-! ## Types -/

/-- Builders whose new classes are read in the state that they leave, and whose types are read with
the enums that they declare. -/
structure Builders.Reading (source : Source) (builders : Builders) : Prop where
  classFor : ∀ {node : Node} {s s' : BuildState} {referencing : Option ClassId} {fallback : String}
    {id : ClassId}, s.Sound source → source.root.Reached node →
    isClassSchema node true = .ok true → s.LeadsTo node.path referencing →
    builders.classFor node fallback referencing s = .ok id s' → NewReads source.root s s'
  typeFor : ∀ {node : Node} {s s' : BuildState} {owner : ClassId} {nameHint : String}
    {built : TypeRef × Node}, s.Sound source → source.root.Reached node → s.IsActive owner →
    builders.typeFor node nameHint owner s = .ok built s' →
    NewReads source.root s s' ∧ s'.graph.ReadsType source.root owner node nameHint
      (s.graph.get owner).enums built.1 built.2 (s'.graph.get owner).enums

section

variable {source : Source} {builders : Builders} {node : Node} {s s' : BuildState}
  {owner : ClassId} {nameHint : String}

/-- The class of a schema for another class, which refers to it. -/
theorem Builders.Reading.classForOwner (h : builders.Reading source) (sound : s.Sound source)
    (reached : source.root.Reached node) (isClass : isClassSchema node true = .ok true)
    (active : s.IsActive owner) {fallback : String} {id : ClassId}
    (run : builders.classFor node fallback (some owner) s = .ok id s') :
    NewReads source.root s s' :=
  have leads : s.LeadsTo node.path (some owner) := active
  h.classFor sound reached isClass leads run

/-- The enum of a schema is found among those of the class by its path, or is declared there. -/
theorem buildEnum_reads {type : TypeRef} (active : s.IsActive owner)
    (form : node.form = .ok .enum) (run : buildEnum node nameHint owner s = .ok type s') :
    NewReads source.root s s' ∧ s'.graph.ReadsType source.root owner node nameHint
      (s.graph.get owner).enums type node (s'.graph.get owner).enums := by
  simp only [buildEnum, Build.bind_eq_ok_iff] at run
  obtain ⟨values, _, hvalues, types, _, htypes, run⟩ := run
  obtain ⟨given, rfl⟩ := Build.ofExcept_eq_ok_iff.1 hvalues
  obtain ⟨-, rfl⟩ := Build.ofExcept_eq_ok_iff.1 htypes
  split at run
  · cases run
  · obtain ⟨graph, _, isGraph, run⟩ := Build.bind_eq_ok_iff.1 run
    cases isGraph
    cases declared : (s.graph.get owner).enums.find? (·.path = node.path) with
    | some definition =>
      simp only [declared] at run
      cases run
      exact ⟨.of_size_eq rfl, .known form declared⟩
    | none =>
      simp only [declared, Build.bind_eq_ok_iff] at run
      obtain ⟨name, _, hname, _, _, hfree, _, _, update, run⟩ := run
      obtain ⟨named, rfl⟩ := Build.ofExcept_eq_ok_iff.1 hname
      obtain ⟨-, rfl⟩ := Build.ofExcept_eq_ok_iff.1 hfree
      cases update
      cases run
      let definition : EnumDef := ⟨name, values, owner, node.path⟩
      let t := s.change owner fun model => { model with enums := model.enums ++ [definition] }
      have enums : (t.graph.get owner).enums = (s.graph.get owner).enums ++ [definition] := by
        rw [s.change_get_self active.inside]
      have read : t.graph.ReadsType source.root owner node nameHint (s.graph.get owner).enums
        (.enum definition) node _ := .enum form given declared named
      rw [← enums] at read
      exact ⟨.of_size_eq (s.change_size owner _), read⟩

variable (traced : builders.Traced source) (h : builders.Reading source)
include traced h

/-- A reference has the type of its target, which is the class if the target has one. -/
theorem buildReference_reads {built : TypeRef × Node} (sound : s.Sound source)
    (within : source.root.Within node) (form : node.form = .ok .reference)
    (active : s.IsActive owner) (run : buildReference source builders node owner s = .ok built s') :
    NewReads source.root s s' ∧ s'.graph.ReadsType source.root owner node nameHint
      (s.graph.get owner).enums built.1 built.2 (s'.graph.get owner).enums := by
  cases Node.HasForm.of_form form with
  | reference isReference =>
    simp only [buildReference, Build.bind_eq_ok_iff] at run
    obtain ⟨resolved, _, hfollow, isClass, _, hclass, run⟩ := run
    obtain ⟨found, rfl⟩ := Build.ofExcept_eq_ok_iff.1 hfollow
    obtain ⟨asked, rfl⟩ := Build.ofExcept_eq_ok_iff.1 hclass
    have reached : source.root.Reached resolved.target := .reference within isReference found
    split at run
    · rename_i yes
      obtain ⟨id, _, target, run⟩ := Build.bind_eq_ok_iff.1 run
      cases run
      have asked : isClassSchema resolved.target true = .ok true := yes ▸ asked
      obtain ⟨-, -, obtained⟩ := (traced.classForOwner sound reached asked active _).of_ok target
      refine ⟨h.classForOwner sound reached asked active target, ?_⟩
      rw [obtained.enums owner active.inside]
      exact .classReference form found asked ⟨obtained.inside, obtained.path⟩
    · rename_i no
      have noClass : isClass = false := by simpa using no
      obtain ⟨state, _, isState, run⟩ := Build.bind_eq_ok_iff.1 run
      cases isState
      split at run
      · cases run
      · simp only [Build.bind_eq_ok_iff] at run
        obtain ⟨_, _, enter, inner, _, released, run⟩ := run
        cases enter
        cases run
        unfold Build.releasing at released
        split at released
        · rename_i target
          cases released
          obtain ⟨_, _, hresolve, target⟩ := Build.bind_eq_ok_iff.1 target
          obtain ⟨-, rfl⟩ := Build.ofExcept_eq_ok_iff.1 hresolve
          have entered : Step source owner s { s with
              inProgress := Pointer.canonical resolved.pointer :: s.inProgress } := .progress _
          obtain ⟨new, read⟩ := h.typeFor (entered.sound sound) reached
            ⟨active.inside, active.pending, active.later⟩ target
          exact ⟨new, .typeReference form found (noClass ▸ asked) read⟩
        · cases released

/-- A type is read as it was built, by the form of its schema. -/
theorem buildType_reads {built : TypeRef × Node} (sound : s.Sound source)
    (reached : source.root.Reached node) (active : s.IsActive owner)
    (run : buildType source builders node nameHint owner s = .ok built s') :
    NewReads source.root s s' ∧ s'.graph.ReadsType source.root owner node nameHint
      (s.graph.get owner).enums built.1 built.2 (s'.graph.get owner).enums := by
  rw [buildType_eq, Build.bind_eq_ok_iff] at run
  obtain ⟨form, _, hform, run⟩ := run
  obtain ⟨isForm, rfl⟩ := Build.ofExcept_eq_ok_iff.1 hform
  have has := Node.HasForm.of_form isForm
  have within := reached.within
  cases form with
  | reference => exact buildReference_reads traced h sound within isForm active run
  | any =>
    cases run
    exact ⟨.of_size_eq rfl, .any isForm⟩
  | enum =>
    obtain ⟨type, _, enum, run⟩ := Build.bind_eq_ok_iff.1 run
    cases run
    exact buildEnum_reads active isForm enum
  | nullable alternative =>
    cases has with
    | nullable _ beside =>
      have reached' : source.root.Reached alternative :=
        .nullable within (Option.filter_eq_some_iff.1 beside).1
      obtain ⟨new, read⟩ := h.typeFor sound reached' active run
      exact ⟨new, .nullable isForm read⟩
  | ofClass =>
    cases has with
    | ofClass isClass =>
      obtain ⟨id, _, own, run⟩ := Build.bind_eq_ok_iff.1 run
      cases run
      have asked := isClassSchema_true isClass
      obtain ⟨-, -, obtained⟩ := (traced.classForOwner sound reached asked active _).of_ok own
      refine ⟨h.classForOwner sound reached asked active own, ?_⟩
      rw [obtained.enums owner active.inside]
      exact .ofClass isForm ⟨obtained.inside, obtained.path⟩
  | anySequence =>
    cases run
    exact ⟨.of_size_eq rfl, .anySequence isForm⟩
  | sequence items =>
    cases has with
    | sequence _ found =>
      obtain ⟨item, _, inner, run⟩ := Build.bind_eq_ok_iff.1 run
      obtain ⟨constraints, _, hconstraints, run⟩ := Build.bind_eq_ok_iff.1 run
      obtain ⟨collected, rfl⟩ := Build.ofExcept_eq_ok_iff.1 hconstraints
      cases run
      obtain ⟨new, read⟩ := h.typeFor sound (.of_member? within found) active inner
      exact ⟨new, .sequence isForm read collected⟩
  | map values =>
    cases has with
    | map _ found =>
      obtain ⟨value, _, inner, run⟩ := Build.bind_eq_ok_iff.1 run
      cases run
      obtain ⟨new, read⟩ := h.typeFor sound (.of_member? within found) active inner
      exact ⟨new, .map isForm read⟩
  | plain type =>
    cases run
    exact ⟨.of_size_eq rfl, .plain isForm⟩

/-! ## Properties -/

omit traced in
theorem buildProperty_reads {name : String} {isRequired : Bool} {property : Property}
    (sound : s.Sound source) (reached : source.root.Reached node) (active : s.IsActive owner)
    (run : buildProperty builders name node isRequired owner s = .ok property s') :
    NewReads source.root s s' ∧ s'.graph.ReadsProperty source.root owner ⟨name, node, isRequired⟩
      (s.graph.get owner).enums property (s'.graph.get owner).enums := by
  obtain ⟨type, keywords, default?, constraints, typed, given, collected, rfl⟩ :=
    buildProperty_eq_ok run
  obtain ⟨new, read⟩ := h.typeFor sound reached active typed
  exact ⟨new, .of read given collected⟩

def buildSchemas (builders : Builders) (owner : ClassId) (schemas : List PropertySchema) :
    Build (List Property) :=
  schemas.mapM fun schema => buildProperty builders schema.name schema.node schema.isRequired owner

/-- The properties of schemas have been built for a class, and each is read in the state that is
left. -/
structure SchemasRead (source : Source) (owner : ClassId) (schemas : List PropertySchema)
    (properties : List Property) (s s' : BuildState) : Prop where
  done : Done source s.graph.size s s'
  sound : s'.Sound source
  active : s'.IsActive owner
  new : NewReads source.root s s'
  read : Threaded (s'.graph.ReadsProperty source.root owner) schemas (s.graph.get owner).enums
    properties (s'.graph.get owner).enums

/-- The enums of the properties are declared one after the other. -/
theorem buildSchemas_reads {schemas : List PropertySchema} {properties : List Property}
    (sound : s.Sound source) (reached : ∀ schema ∈ schemas, source.root.Reached schema.node)
    (active : s.IsActive owner) (run : buildSchemas builders owner schemas s = .ok properties s') :
    SchemasRead source owner schemas properties s s' := by
  induction schemas generalizing s properties with
  | nil =>
    cases run
    exact ⟨.refl source _ _, sound, active, .of_size_eq rfl, .nil⟩
  | cons schema rest ih =>
    obtain ⟨reachedFirst, reachedRest⟩ := List.forall_mem_cons.1 reached
    unfold buildSchemas at run
    rw [List.mapM_cons] at run
    obtain ⟨property, s₁, first, run⟩ := Build.bind_eq_ok_iff.1 run
    obtain ⟨others, s₂, rest, run⟩ := Build.bind_eq_ok_iff.1 run
    cases run
    obtain ⟨steps, finished, -⟩ :=
      (buildProperty_traces traced sound reachedFirst _ _ active).of_ok first
    have sound₁ := steps.sound sound
    have done : Done source s.graph.size s s₁ := ⟨steps.kept, steps, finished⟩
    obtain ⟨done', sound₂, active₂, new', reads⟩ :=
      ih sound₁ reachedRest (done.active active active.inside) rest
    obtain ⟨new, read⟩ := buildProperty_reads h sound reachedFirst active first
    exact ⟨done.trans (done'.of_le done.size_le), sound₂, active₂,
      new.trans sound₁ finished done'.steps new', .cons (read.mono done'.toKept.hasPath) reads⟩

omit traced h

/-- The schema of a property is reached on its own, since it is the member of an object. -/
theorem Node.reached_of_mem_declaredProperties {root : Node} (within : root.Within node)
    {skipped : List String} {schema : PropertySchema}
    (mem : schema ∈ node.declaredProperties skipped) : root.Reached schema.node := by
  unfold Node.declaredProperties at mem
  split at mem
  · cases mem
  · rename_i properties found
    obtain ⟨member, hmember, rfl⟩ := List.mem_map.1 mem
    exact .of_mem_members (within.member? found) (List.mem_filter.1 hmember).1

/-- The properties of a class are those of the schemas of its properties. -/
theorem buildProperties_eq_ok {skipped : List String} {properties : List Property}
    (run : buildProperties builders node owner skipped s = .ok properties s') :
    buildSchemas builders owner (node.declaredProperties skipped) s = .ok properties s' := by
  unfold buildProperties at run
  unfold buildSchemas Node.declaredProperties
  cases found : node.member? "properties" with
  | none =>
    rw [found] at run
    exact run
  | some members =>
    simp only [found] at run ⊢
    split at run
    · cases run
    · cases given : node.member? "required" with
      | none =>
        rw [List.mapM_map]
        simp only [given] at run
        exact run
      | some required =>
        simp only [given] at run
        split at run
        · rw [List.mapM_map]
          exact run
        · cases run

include traced h in
theorem buildProperties_reads {skipped : List String} {properties : List Property}
    (sound : s.Sound source) (within : source.root.Within node) (active : s.IsActive owner)
    (run : buildProperties builders node owner skipped s = .ok properties s') :
    SchemasRead source owner (node.declaredProperties skipped) properties s s' :=
  buildSchemas_reads traced h sound
    (fun _ mem => Node.reached_of_mem_declaredProperties within mem) active
    (buildProperties_eq_ok run)

/-! ## Extensions -/

/-- Properties are added after those from before, in their order. -/
theorem addProperties_eq_ok {inherited : List String} {own properties all : List Property}
    (h : addProperties inherited own properties = .ok all) : all = own ++ properties := by
  induction properties generalizing own with
  | nil =>
    cases h
    exact (List.append_nil _).symm
  | cons property rest ih =>
    unfold addProperties at h
    split at h
    · cases h
    · rw [ih h, List.append_assoc]
      rfl

/-- The properties that parts add are those of the schemas of all parts. -/
theorem addParts_eq_ok {inherited : List String} {own all : List Property} {parts : List Node}
    (run : addParts builders owner inherited own parts s = .ok all s') : ∃ added,
      all = own ++ added ∧
      buildSchemas builders owner (parts.flatMap (·.declaredProperties)) s = .ok added s' := by
  induction parts generalizing own s with
  | nil =>
    cases run
    exact ⟨[], (List.append_nil _).symm, rfl⟩
  | cons part rest ih =>
    unfold addParts at run
    obtain ⟨properties, s₁, first, run⟩ := Build.bind_eq_ok_iff.1 run
    obtain ⟨own', _, hadd, run⟩ := Build.bind_eq_ok_iff.1 run
    obtain ⟨adds, rfl⟩ := Build.ofExcept_eq_ok_iff.1 hadd
    obtain ⟨added, rfl, others⟩ := ih run
    refine ⟨properties ++ added, by rw [addProperties_eq_ok adds, List.append_assoc], ?_⟩
    unfold buildSchemas at others ⊢
    rw [List.flatMap_cons, List.mapM_append]
    have first := buildProperties_eq_ok first
    unfold buildSchemas at first
    exact Build.bind_eq_ok_iff.2 ⟨properties, s₁, first,
      Build.bind_eq_ok_iff.2 ⟨added, s', others, rfl⟩⟩

/-- The base is the class of the schema that the reference leads to. -/
theorem buildBase_eq_ok {reference : Node} {base : ClassId}
    (run : buildBase source builders owner reference s = .ok base s') : ∃ resolved,
      follow source.root reference = .ok resolved ∧
      isClassSchema resolved.target true = .ok true ∧
      builders.classFor resolved.target (Pointer.tail resolved.pointer) (some owner) s =
        .ok base s' := by
  unfold buildBase at run
  obtain ⟨resolved, _, hfollow, run⟩ := Build.bind_eq_ok_iff.1 run
  obtain ⟨found, rfl⟩ := Build.ofExcept_eq_ok_iff.1 hfollow
  obtain ⟨isClass, _, hclass, run⟩ := Build.bind_eq_ok_iff.1 run
  obtain ⟨asked, rfl⟩ := Build.ofExcept_eq_ok_iff.1 hclass
  split at run
  · cases run
  · rename_i yes
    have isClass' : isClass = true := by simpa using yes
    obtain ⟨id, t, target, run⟩ := Build.bind_eq_ok_iff.1 run
    obtain ⟨graph, _, hgraph, run⟩ := Build.bind_eq_ok_iff.1 run
    cases hgraph
    split at run
    · cases run
    · split at run
      · cases run
      · cases run
        exact ⟨resolved, found, isClass' ▸ asked, target⟩

end

section

variable {source : Source} {builders : Builders} {node : Node} {s s' : BuildState}
  {owner : ClassId} (traced : builders.Traced source) (h : builders.Reading source)
include traced h

/-- The base of an extension is the class of its reference, and its properties are those of its
parts. -/
theorem buildExtension_reads {members : Node} (sound : s.Sound source)
    (within : source.root.Within node) (found : node.member? "allOf" = some members)
    (active : s.IsActive owner) (blank : (s.graph.get owner).Blank)
    (noEnums : (s.graph.get owner).enums = []) (path : (s.graph.get owner).path = node.path)
    (run : buildExtension source builders owner node members s = .ok () s') :
    NewReads source.root s s' ∧ s'.graph.ReadsClass source.root owner := by
  unfold buildExtension at run
  obtain ⟨⟨reference, inline⟩, _, hsplit, run⟩ := Build.bind_eq_ok_iff.1 run
  obtain ⟨splits, rfl⟩ := Build.ofExcept_eq_ok_iff.1 hsplit
  obtain ⟨href, isReference, hinline⟩ := mem_of_splitAllOf splits
  have item {part : Node} (mem : part ∈ members.items) : source.root.Within part :=
    (within.member? found).items mem
  have inside := active.inside
  -- The base.
  obtain ⟨base, s₁, hbase, run⟩ := Build.bind_eq_ok_iff.1 run
  obtain ⟨resolved, follows, isClass, target⟩ := buildBase_eq_ok hbase
  have reached : source.root.Reached resolved.target := .reference (item href) isReference follows
  have new₁ := h.classForOwner sound reached isClass active target
  obtain ⟨steps₁, finished₁, obtained⟩ :=
    (traced.classForOwner sound reached isClass active _).of_ok target
  have sound₁ := steps₁.sound sound
  have done₁ : Done source s.graph.size s s₁ := ⟨steps₁.kept, steps₁, finished₁⟩
  have active₁ := done₁.active active inside
  obtain ⟨graph, _, hgraph, run⟩ := Build.bind_eq_ok_iff.1 run
  cases hgraph
  -- The properties of the parts.
  obtain ⟨own, s₂, hparts, run⟩ := Build.bind_eq_ok_iff.1 run
  obtain ⟨added, eq, builds⟩ := addParts_eq_ok hparts
  obtain rfl : own = added := by simpa using eq
  have schemas : ∀ schema ∈ (inline ++ [node]).flatMap (·.declaredProperties),
      source.root.Reached schema.node := by
    intro schema mem
    obtain ⟨part, hpart, mem⟩ := List.mem_flatMap.1 mem
    refine Node.reached_of_mem_declaredProperties ?_ mem
    rcases List.mem_append.1 hpart with hpart | hpart
    · exact item (hinline part hpart)
    · exact List.mem_singleton.1 hpart ▸ within
  obtain ⟨done₂, sound₂, active₂, new₂, read⟩ :=
    buildSchemas_reads traced h sound₁ schemas active₁ builds
  -- The class is filled with them.
  cases run
  have blank₂ : (s₂.graph.get owner).Blank :=
    (blank.of_same (done₁.content inside inside)).of_same
      (done₂.content active₁.inside active₁.inside)
  have path₂ : (s₂.graph.get owner).path = node.path :=
    (done₂.declaration active₁.inside).path.trans ((done₁.declaration inside).path.trans path)
  have parts : source.root.parts node =
      .ok (some resolved.target, (inline ++ [node]).flatMap (·.declaredProperties)) := by
    simp only [Node.parts, found, splits, follows, bind, Except.bind]
    rfl
  rw [obtained.enums owner inside, noEnums] at read
  exact ⟨(new₁.trans sound₁ finished₁ done₂.steps new₂).change active₂.inside inside rfl
      (.inr (sound₂.composition.unreached_of_blank blank₂)),
    BuildState.readsClass_change active₂.inside within path₂ rfl rfl (kindFor_eq _)
      (by simp [Node.isChoice, Node.has_of_member? found]) parts
      (.some (done₂.toKept.hasPath ⟨obtained.inside, obtained.path⟩)) read⟩

/-! ## Alternatives -/

omit traced h in
/-- An alternative is filled from its own schema, or from the one that it refers to. -/
theorem alternativeTarget_of_alternativeSchema {keyword name : String} {alternative schema : Node}
    (found : alternativeSchema source keyword alternative = .ok (schema, name)) :
    source.root.alternativeTarget alternative = .ok schema := by
  unfold alternativeSchema at found
  unfold Node.alternativeTarget
  split at found
  · rename_i isReference
    obtain ⟨resolved, follows, found⟩ := Except.bind_eq_ok_iff.1 found
    obtain ⟨_, -, found⟩ := Except.bind_eq_ok_iff.1 found
    cases found
    rw [if_pos isReference, follows]
    rfl
  · rename_i inline
    rw [if_neg inline]
    split at found
    · cases found
    · obtain ⟨_, -, found⟩ := Except.bind_eq_ok_iff.1 found
      cases found
      rfl

section

variable {choice alternative : Node} {shared : List Property} {paths : List String}

/-- An alternative is read in the state that it leaves, and its base keeps its enums. -/
theorem buildVariant_reads {schema : Node} (sound : s.Sound source)
    (isOpen : IsOpen choice owner shared paths s) (active : s.IsActive owner)
    (isAlternative : source.root.HasAlternative choice alternative)
    (fresh : alternative.path ∉ paths)
    (target : source.root.alternativeTarget alternative = .ok schema)
    (simple : isAlternativeSchema schema = .ok true) (within : source.root.Within schema)
    {name : String} (named : IsClassName name)
    (run : buildVariant builders owner (shared.map (·.name)) alternative.path name schema s =
      .ok () s') :
    NewReads source.root s s' ∧ (s'.graph.get owner).enums = (s.graph.get owner).enums := by
  rw [buildVariant_apply] at run
  split at run
  · cases run
  · rename_i free
    have begun := begin_variant sound isOpen active isAlternative fresh named
      (isFreeIn_of_checkFreeIn free)
    have self₁ := begun.declares.get_size sound.nesting
    have inside := begun.active.inside
    obtain ⟨properties, s₂, hproperties, run⟩ := Build.bind_eq_ok_iff.1 run
    cases run
    obtain ⟨done₂, sound₂, active₂, new₂, read⟩ :=
      buildProperties_reads traced h begun.sound within begun.active hproperties
    have same := done₂.content inside inside
    rw [self₁] at same read
    have kind : (s₂.graph.get s.graph.size).kind = .nestedVariant := same.kind
    have isBase : (s₂.graph.get s.graph.size).base = some owner := same.base
    have path : (s₂.graph.get s.graph.size).path = alternative.path := by
      rw [(done₂.declaration inside).path, self₁]
      rfl
    have isOpen₂ := begun.isOpen.of_kept done₂.toKept
    let f (model : ClassModel) : ClassModel := { model with properties, built := true }
    have self := s₂.change_get_self active₂.inside f
    have other := s₂.change_get_of_ne (Nat.ne_of_lt isOpen.inside) f
    constructor
    · intro id le lt
      rcases Nat.eq_or_lt_of_le le with rfl | gt
      · change (s₂.change s.graph.size f).graph.ReadsClass source.root s.graph.size
        refine .variant isAlternative (by rw [self]; exact path) (by rw [self]; exact kind)
          (by rw [self]; exact isBase) target simple ?_
        rw [other, isOpen₂.properties]
        exact BuildState.readsContent_change active₂.inside rfl rfl read
      · exact new₂.change active₂.inside inside rfl
          (.inr (sound₂.composition.unreached_of_variant kind)) id (begun.declares.size ▸ gt) lt
    · change ((s₂.change s.graph.size f).graph.get owner).enums = _
      rw [other, done₂.steps.enums begun.sound inside active₂.pending isOpen.inside]
      exact begun.declares.enums_of_lt sound.nesting isOpen.inside

/-- An alternative is read as it was built, and its base keeps what it has. -/
theorem buildAlternative_reads (sound : s.Sound source)
    (isOpen : IsOpen choice owner shared paths s) (active : s.IsActive owner)
    (isAlternative : source.root.HasAlternative choice alternative)
    (fresh : alternative.path ∉ paths) {keyword : String}
    (run : buildAlternative source builders owner keyword (shared.map (·.name)) alternative s =
      .ok () s') :
    NewReads source.root s s' ∧ (s'.graph.get owner).enums = (s.graph.get owner).enums := by
  obtain ⟨schema, name, found, simple, run⟩ := buildAlternative_eq_ok run
  exact buildVariant_reads traced h sound isOpen active isAlternative fresh
    (alternativeTarget_of_alternativeSchema found) simple
    (within_of_alternativeSchema isAlternative.within found)
    (isClassName_of_alternativeSchema found) run

/-- The alternatives of a choice are read. The induction is on those that are left. -/
theorem alternatives_reads (sound : s.Sound source) (isOpen : IsOpen choice owner shared paths s)
    (active : s.IsActive owner) {rest : List Node}
    (areAlternatives : ∀ alternative ∈ rest, source.root.HasAlternative choice alternative)
    (distinct : (rest.map (·.path)).Nodup) (fresh : ∀ alternative ∈ rest, alternative.path ∉ paths)
    {keyword : String}
    (run : rest.forM (buildAlternative source builders owner keyword (shared.map (·.name))) s =
      .ok () s') :
    NewReads source.root s s' ∧ (s'.graph.get owner).enums = (s.graph.get owner).enums := by
  induction rest generalizing s paths with
  | nil =>
    cases run
    exact ⟨.of_size_eq rfl, rfl⟩
  | cons alternative rest ih =>
    obtain ⟨apart, distinct⟩ := List.nodup_cons.1 distinct
    obtain ⟨isAlternative, areAlternatives⟩ := List.forall_mem_cons.1 areAlternatives
    obtain ⟨freshFirst, freshRest⟩ := List.forall_mem_cons.1 fresh
    obtain ⟨_, s₁, first, run⟩ := Build.bind_eq_ok_iff.1 run
    obtain ⟨steps, finished, isOpen₁⟩ := (buildAlternative_traces traced sound isOpen active
      isAlternative freshFirst keyword).of_ok first
    have sound₁ := steps.sound sound
    have done : Done source owner s s₁ := ⟨steps.kept, steps, finished⟩
    have active₁ := done.active_of_pending active isOpen₁.pending
    have freshRest' : ∀ other ∈ rest, other.path ∉ alternative.path :: paths := by
      intro other mem known
      rcases List.mem_cons.1 known with eq | known
      · exact apart (List.mem_map.2 ⟨other, mem, eq⟩)
      · exact freshRest other mem known
    obtain ⟨steps', -, -⟩ := (alternatives_traces traced sound₁ isOpen₁ active₁ areAlternatives
      distinct freshRest' keyword).of_ok run
    obtain ⟨new, enums⟩ :=
      buildAlternative_reads traced h sound isOpen active isAlternative freshFirst first
    obtain ⟨new', enums'⟩ := ih sound₁ isOpen₁ active₁ areAlternatives distinct freshRest' run
    exact ⟨new.trans sound₁ finished steps' new', enums'.trans enums⟩

end

/-- A class with alternatives before these are declared in it: it is an open base and has the shared
properties. -/
structure AlternativesBegun (source : Source) (node : Node) (owner : ClassId)
    (shared : List Property) (s s' : BuildState) : Prop where
  sound : s'.Sound source
  active : s'.IsActive owner
  isOpen : IsOpen node owner shared [] s'
  finished : Finished s s'
  new : NewReads source.root s s'
  content : s'.graph.ReadsContent source.root owner node.declaredProperties

/-- When its shared properties have been built, a class is an open base to which alternatives can be
added. -/
theorem begin_alternatives {shared : List Property} {s₂ : BuildState} (sound : s.Sound source)
    (within : source.root.Within node) (active : s.IsActive owner)
    (blank : (s.graph.get owner).Blank) (noEnums : (s.graph.get owner).enums = [])
    (path : (s.graph.get owner).path = node.path)
    (run : buildProperties builders node owner []
      (s.change owner fun model => { model with kind := .openBase }) = .ok shared s₂) :
    AlternativesBegun source node owner shared s
      (s₂.change owner fun model => { model with properties := shared }) := by
  have inside := active.inside
  -- The class becomes an open base.
  have step : Step source owner s (s.change owner fun model => { model with kind := .openBase }) :=
    .fill (Nat.le_refl _) active (.openBase blank)
  have sound₁ := step.sound sound
  have active₁ := active.change (f := fun model => { model with kind := .openBase }) rfl
  have noEnums₁ : ((s.change owner fun model => { model with kind := .openBase }).graph.get
      owner).enums = [] := by
    rw [s.change_get_self inside]
    exact noEnums
  -- It gets the shared properties.
  obtain ⟨done, sound₂, active₂, new, read⟩ :=
    buildProperties_reads traced h sound₁ within active₁ run
  have isOpen := (IsOpen.of_blank sound inside blank path).of_kept done.toKept
  have childless (other : ClassId) : (s₂.graph.get other).base ≠ some owner := fun child =>
    absurd (isOpen.children other child) List.not_mem_nil
  have distinct := ((buildProperties_traces traced sound₁ within active₁ []).of_ok run).2.2.1
  have step' : Step source owner s₂ (s₂.change owner fun model =>
      { model with properties := shared }) :=
    .fill (Nat.le_refl _) active₂ (.share isOpen.kind childless distinct)
  have size : (s.change owner fun model => { model with kind := .openBase }).graph.size =
      s.graph.size := s.change_size _ _
  rw [noEnums₁] at read
  have finished := done.finished.trans (.of_size_eq (s₂.change_size _ _)) step'.kept
  have new := new.change (f := fun model => { model with properties := shared }) active₂.inside
    active₁.inside rfl (.inr childless)
  exact {
    sound := step'.sound sound₂
    active := active₂.change rfl
    isOpen := isOpen.share shared
    finished := fun id le lt => finished id (size ▸ le) lt
    new := fun id le lt => new id (size ▸ le) lt
    content := BuildState.readsContent_change active₂.inside rfl rfl read }

/-- Each alternative leaves the base and the alternatives before it as they are. -/
theorem buildAlternatives_reads (sound : s.Sound source) (within : source.root.Within node)
    (isClass : isClassSchema node true = .ok true) (noBase : node.member? "allOf" = none)
    (isChoice : node.has "oneOf" ∨ node.has "anyOf") (active : s.IsActive owner)
    (blank : (s.graph.get owner).Blank) (noEnums : (s.graph.get owner).enums = [])
    (path : (s.graph.get owner).path = node.path)
    (run : buildAlternatives source builders owner node s = .ok () s') :
    NewReads source.root s s' ∧ s'.graph.ReadsClass source.root owner := by
  unfold buildAlternatives at run
  split at run
  · cases run
  · rename_i notBoth
    obtain ⟨keyword, hkeyword, isKeyword, has, -⟩ := exists_choiceKeyword isChoice notBoth
    simp only [hkeyword] at run
    cases found : node.member? keyword with
    | none => simp [Node.has, Option.map_eq_none_iff.1 found] at has
    | some alternatives =>
      simp only [found] at run
      split at run
      · cases run
      · obtain ⟨_, _, hopen, run⟩ := Build.bind_eq_ok_iff.1 run
        cases hopen
        obtain ⟨shared, s₂, hshared, run⟩ := Build.bind_eq_ok_iff.1 run
        have begun := begin_alternatives traced h sound within active blank noEnums path hshared
        obtain ⟨_, _, hshare, run⟩ := Build.bind_eq_ok_iff.1 run
        cases hshare
        -- The alternatives are declared in the class.
        have areAlternatives : ∀ alternative ∈ alternatives.items,
            source.root.HasAlternative node alternative :=
          fun _ mem => .of within isClass isKeyword found mem
        change (alternatives.items.forM (buildAlternative source builders owner keyword
          (shared.map (·.name))) : Build PUnit) _ = _ at run
        obtain ⟨steps, -, isOpen⟩ := (alternatives_traces traced begun.sound begun.isOpen
          begun.active areAlternatives alternatives.nodup_items_path
          (fun _ _ => List.not_mem_nil) keyword).of_ok run
        obtain ⟨new, enums⟩ := alternatives_reads traced h begun.sound begun.isOpen begun.active
          areAlternatives alternatives.nodup_items_path (fun _ _ => List.not_mem_nil) run
        refine ⟨begun.new.trans begun.sound begun.finished steps new, ?_⟩
        have parts : source.root.parts node = .ok (none, node.declaredProperties) := by
          simp only [Node.parts, noBase]
        have isChoice' : node.isChoice := by
          have noAllOf : node.has "allOf" = false := by simpa [Node.has, Node.member?] using noBase
          simpa [Node.isChoice, noAllOf] using isChoice
        refine .filled within isOpen.path parts (by simp [isOpen.kind])
          (by simp [isOpen.kind, isChoice']) ?_ (begun.content.mono steps.kept.hasPath
            (isOpen.properties.trans begun.isOpen.properties.symm) enums)
        rw [(steps.sound begun.sound).composition.base_of_openBase isOpen.kind]
        exact .none

/-! ## Classes -/

/-- A class is read as it was filled: as a choice, as an extension or from its own properties. -/
theorem fillClass_reads (sound : s.Sound source) (within : source.root.Within node)
    (isClass : isClassSchema node true = .ok true) (active : s.IsActive owner)
    (blank : (s.graph.get owner).Blank) (noEnums : (s.graph.get owner).enums = [])
    (path : (s.graph.get owner).path = node.path)
    (run : fillClass source builders owner node s = .ok () s') :
    NewReads source.root s s' ∧ s'.graph.ReadsClass source.root owner := by
  unfold fillClass at run
  cases found : node.member? "allOf" with
  | some members =>
    simp only [found] at run
    exact buildExtension_reads traced h sound within found active blank noEnums path run
  | none =>
    simp only [found] at run
    have noAllOf : node.has "allOf" = false := by simpa [Node.has, Node.member?] using found
    split at run
    · rename_i isChoice
      exact buildAlternatives_reads traced h sound within isClass found (by simpa using isChoice)
        active blank noEnums path run
    · rename_i noChoice
      obtain ⟨properties, s₁, hproperties, run⟩ := Build.bind_eq_ok_iff.1 run
      cases run
      obtain ⟨done₁, sound₁, active₁, new₁, read⟩ :=
        buildProperties_reads traced h sound within active hproperties
      have blank₁ := blank.of_same (done₁.content active.inside active.inside)
      have path₁ : (s₁.graph.get owner).path = node.path :=
        (done₁.declaration active.inside).path.trans path
      have parts : source.root.parts node = .ok (none, node.declaredProperties) := by
        simp only [Node.parts, found]
      rw [noEnums] at read
      refine ⟨new₁.change active₁.inside active.inside rfl
        (.inr (sound₁.composition.unreached_of_blank blank₁)), ?_⟩
      refine BuildState.readsClass_change active₁.inside within path₁ rfl rfl (kindFor_eq _)
        (by simpa [Node.isChoice, noAllOf] using noChoice) parts ?_ read
      rw [blank₁.base]
      exact .none

/-- The classes that are new after a class has been built are read as they were filled. -/
theorem buildClass_reads (sound : s.Sound source) (reached : source.root.Reached node)
    (isClass : isClassSchema node true = .ok true) {referencing : Option ClassId}
    (leads : s.LeadsTo node.path referencing) {fallback : String} {id : ClassId}
    (run : buildClass source builders node fallback referencing s = .ok id s') :
    NewReads source.root s s' := by
  cases cached : s.classOf.lookup node.path with
  | some known =>
    rw [buildClass_cached cached] at run
    cases run
    exact .of_size_eq rfl
  | none =>
    rw [buildClass_fresh cached] at run
    cases hplacement : s.placement node fallback referencing with
    | error failure =>
      rw [hplacement] at run
      cases run
    | ok placed =>
      obtain ⟨name, enclosing, reserved⟩ := placed
      rw [hplacement] at run
      simp only at run
      have declares : s.Declares source _ _ := .begin leads hplacement
      have step : Step source s.graph.size s (s.begin reserved
          (blankClass source node name enclosing) referencing) :=
        .declare reached isClass cached leads hplacement (declares.inside sound.nesting)
      have sound₁ := step.sound sound
      have active₁ := declares.active sound.nesting
      have self := declares.get_size sound.nesting
      have blank : ((s.begin reserved (blankClass source node name enclosing)
          referencing).graph.get s.graph.size).Blank := by
        rw [self]
        exact ⟨rfl, rfl, rfl, rfl⟩
      have path : ((s.begin reserved (blankClass source node name enclosing)
          referencing).graph.get s.graph.size).path = node.path := by
        rw [self]
        rfl
      obtain ⟨_, s₂, fill, run⟩ := Build.bind_eq_ok_iff.1 run
      cases run
      obtain ⟨new, read⟩ := fillClass_reads traced h sound₁ reached.within isClass active₁ blank
        (by rw [self]; rfl) path fill
      obtain ⟨-, -, filled⟩ := (fillClass_traces traced sound₁ reached.within isClass active₁
        declares.size blank path).of_ok fill
      intro other le lt
      change other < (s₂.change s.graph.size _).graph.size at lt
      rw [s₂.change_size] at lt
      refine BuildState.readsClass_complete filled.active.inside lt ?_
      rcases Nat.eq_or_lt_of_le le with rfl | gt
      · exact read
      · exact new other (declares.size ▸ gt) lt

end

/-- The builders to any depth leave the new classes read. -/
theorem builders_reading (source : Source) (depth : Nat) :
    (SchemaClasses.builders source depth).Reading source := by
  induction depth with
  | zero => exact ⟨fun _ _ _ _ run => (by cases run), fun _ _ _ run => (by cases run)⟩
  | succ depth ih =>
    have traced := builders_traced source depth
    exact ⟨fun sound reached isClass leads run =>
        buildClass_reads traced ih sound reached isClass leads run,
      fun sound reached active run => buildType_reads traced ih sound reached active run⟩

/-! ## Runs -/

section

variable {source : Source} {registered : List Definition} {returned : List (Definition × ClassId)}
  {succeeded : Bool} {s : BuildState}

theorem NewReads.of_empty {root : Node} {s s' : BuildState} (h : NewReads root s s')
    (empty : s.graph.size = 0) {id : ClassId} (inside : id < s'.graph.size) :
    s'.graph.ReadsClass root id :=
  h id (empty ▸ Nat.zero_le id) inside

/-- In a run in which every call has succeeded all classes are read. The induction is on the
calls. -/
theorem Run.readsClass (distinct : source.root.value.distinctKeys) (top : source.root.path = "")
    (run : Run source registered returned succeeded s) (success : succeeded) {id : ClassId}
    (inside : id < s.graph.size) : s.graph.ReadsClass source.root id := by
  have empty := BuildState.Unbuilt.empty distinct top
  have reading := builders_reading source (depthBound source.root.value)
  induction run generalizing id with
  | start => exact absurd inside (Nat.not_lt_zero id)
  | @root name? _ _ run =>
    obtain ⟨name, s₁, hregister, hbuild⟩ := Build.bind_eq_ok_iff.1 run
    obtain ⟨unbuilt, isRegistered⟩ := (registerRoot_ends empty name?).of_ok hregister
    have new := reading.classFor unbuilt.sound (.keyed isRegistered.keyed) isRegistered.isClass
      isRegistered.leadsTo hbuild
    exact new.of_empty unbuilt.size inside
  | rootFails | registerFails | buildFails => cases success
  | register found run =>
    obtain ⟨keyed, paths⟩ := keyed_of_definitions distinct found
    obtain ⟨unbuilt, -, -⟩ := (registerDefinitions_ends empty keyed paths).of_ok run
    rw [unbuilt.size] at inside
    exact absurd inside (Nat.not_lt_zero id)
  | @build _ _ _ s s' entry _ before mem run ih =>
    have invariant := before.invariant distinct top
    have isRegistered := invariant.registration entry mem
    obtain ⟨steps, -, -⟩ := (buildDefinition_traces invariant.sound isRegistered).of_ok run
    have new := reading.classFor invariant.sound (.keyed isRegistered.keyed) isRegistered.isClass
      isRegistered.leadsTo run
    rcases Nat.lt_or_ge id s.graph.size with old | le
    · exact steps.readsClass invariant.sound (invariant.built success id old) (ih success old)
    · exact new id le inside

end

end SchemaClasses
