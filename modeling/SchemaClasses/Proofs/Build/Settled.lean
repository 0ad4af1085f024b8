import SchemaClasses.Proofs.Build.Arrangement

/-!
# Complete classes in builds that fail

A class is complete as soon as it has been filled, whatever becomes of the build around it. So the
complete classes stand as their schemas say in every state of a run, also when a call has failed and
has left other classes behind that are not complete.

## Main definitions

* `ClassGraph.Settled`: a class stands as its schema says, with its alternatives in order.
* `Build.Settles`: the complete classes are settled after a step, whether it succeeds or fails.
* `Builders.Settling`: builders that leave the complete classes settled.

## Main statements

* `builders_settling`: the builders to any depth leave the complete classes settled.
* `Run.settled`: the complete classes of a run are settled.
-/

namespace SchemaClasses

/-- A class stands as its schema says, and if it is an open base, the alternatives of its choice
stand in it in their order. -/
structure ClassGraph.Settled (graph : ClassGraph) (root : Node) (id : ClassId) : Prop where
  reads : graph.ReadsClass root id
  arranged : ∀ {choice : Node}, root.Within choice → (graph.get id).kind = .openBase →
    (graph.get id).path = choice.path → graph.variantPaths id = choice.alternatives.map (·.path)

def BuildState.Settled (root : Node) (s : BuildState) : Prop :=
  ∀ id, (s.graph.get id).built → s.graph.Settled root id

/-! ## Steps -/

section

variable {source : Source} {floor id : ClassId} {s s' : BuildState}

theorem BuildState.Settled.of_empty {root : Node} (empty : s.graph.size = 0) : s.Settled root :=
  fun id built => absurd (ClassGraph.lt_size_of_built built) (empty ▸ Nat.not_lt_zero id)

/-- Declaring a class leaves the complete ones settled. -/
theorem BuildState.Settled.declare {model : ClassModel} (h : s.Settled source.root)
    (sound : s.Sound source) (step : Step source floor s s') (declares : s.Declares source s' model) :
    s'.Settled source.root := by
  intro id built
  have nesting := sound.nesting
  have ne : id ≠ s.graph.size := by
    rintro rfl
    rw [declares.get_size nesting] at built
    exact declares.pending built
  have same := declares.get_of_ne nesting ne
  rw [same.2.built] at built
  obtain ⟨reads, arranged⟩ := h id built
  refine ⟨Steps.readsClass (.single step) sound built reads, fun within kind path => ?_⟩
  rw [step.variantPaths nesting (ClassGraph.lt_size_of_built built) (.inr built)]
  exact arranged within (same.2.kind ▸ kind) (same.1.path ▸ path)

/-- Filling a class that is not complete leaves the complete ones settled, unless one of them is
composed from it and it gets other properties. -/
theorem ClassGraph.Settled.change {root : Node} {other : ClassId} (h : s.graph.Settled root other)
    {f : ClassModel → ClassModel} (inside : id < s.graph.size) (lt : other < s.graph.size)
    (ne : other ≠ id) (declaration : (s.graph.get id).SameDeclaration (f (s.graph.get id)))
    (nested : (f (s.graph.get id)).nested = (s.graph.get id).nested)
    (kind : (f (s.graph.get id)).kind = .nestedVariant ↔ (s.graph.get id).kind = .nestedVariant)
    (properties : (f (s.graph.get id)).properties = (s.graph.get id).properties ∨
      ∀ other, (s.graph.get other).base ≠ some id) :
    (s.change id f).graph.Settled root other := by
  have same := s.change_get_of_ne ne f
  constructor
  · refine h.reads.mono (BuildState.hasPath_change inside declaration.path) lt (by rw [same])
      (by rw [same]) (by rw [same]) (by rw [same]) fun base isBase => ?_
    by_cases eq : base = id
    · subst eq
      rw [s.change_get_self inside]
      exact properties.resolve_right fun unreached => unreached other isBase
    · rw [s.change_get_of_ne eq]
  · intro choice within isOpen path
    rw [s.variantPaths_change inside declaration nested kind]
    rw [same] at isOpen path
    exact h.arranged within isOpen path

/-- The class being built is filled and is not complete then. -/
theorem BuildState.Settled.change {root : Node} (h : s.Settled root) {f : ClassModel → ClassModel}
    (active : s.IsActive id) (declaration : (s.graph.get id).SameDeclaration (f (s.graph.get id)))
    (nested : (f (s.graph.get id)).nested = (s.graph.get id).nested)
    (built : (f (s.graph.get id)).built = (s.graph.get id).built)
    (kind : (f (s.graph.get id)).kind = .nestedVariant ↔ (s.graph.get id).kind = .nestedVariant)
    (properties : (f (s.graph.get id)).properties = (s.graph.get id).properties ∨
      ∀ other, (s.graph.get other).base ≠ some id) : (s.change id f).Settled root := by
  intro other complete
  by_cases eq : other = id
  · rw [eq, s.change_get_self active.inside, built] at complete
    exact absurd complete active.pending
  · rw [s.change_get_of_ne eq] at complete
    exact (h other complete).change active.inside (ClassGraph.lt_size_of_built complete) eq
      declaration nested kind properties

/-- A class becomes complete and is settled then. -/
theorem BuildState.Settled.complete {root : Node} (h : s.Settled root) {f : ClassModel → ClassModel}
    (inside : id < s.graph.size)
    (declaration : (s.graph.get id).SameDeclaration (f (s.graph.get id)))
    (nested : (f (s.graph.get id)).nested = (s.graph.get id).nested)
    (kind : (f (s.graph.get id)).kind = .nestedVariant ↔ (s.graph.get id).kind = .nestedVariant)
    (properties : (f (s.graph.get id)).properties = (s.graph.get id).properties ∨
      ∀ other, (s.graph.get other).base ≠ some id)
    (own : (s.change id f).graph.Settled root id) : (s.change id f).Settled root := by
  intro other complete
  by_cases eq : other = id
  · exact eq ▸ own
  · rw [s.change_get_of_ne eq] at complete
    exact (h other complete).change inside (ClassGraph.lt_size_of_built complete) eq declaration
      nested kind properties

end

/-! ## Settling -/

namespace Build

variable {α β : Type}

def Settles (root : Node) (s : BuildState) (step : Build α) : Prop :=
  match step s with
  | .ok _ s' => s'.Settled root
  | .error _ s' => s'.Settled root

namespace Settles

variable {root : Node} {source : Source} {floor : ClassId} {s s' : BuildState} {step : Build α}
  {next : α → Build β} {P : α → BuildState → Prop}

theorem of_ok (h : Settles root s step) {x : α} (run : step s = .ok x s') : s'.Settled root := by
  unfold Settles at h
  rwa [run] at h

theorem of_error (h : Settles root s step) {failure : Failure} (run : step s = .error failure s') :
    s'.Settled root := by
  unfold Settles at h
  rwa [run] at h

/-- A step that goes on with another one from another state. -/
theorem of_apply {step' : Build α} (run : step s = step' s') (h : Settles root s' step') :
    Settles root s step := by
  unfold Settles at h ⊢
  rwa [run]

/-- A step that fails in another state. -/
theorem of_fails {failure : Failure} (run : step s = .error failure s') (h : s'.Settled root) :
    Settles root s step := by
  unfold Settles
  rwa [run]

theorem pure {x : α} (h : s.Settled root) : Settles root s (Pure.pure x) := h

theorem throw {failure : Failure} (h : s.Settled root) :
    Settles root s (throw failure : Build α) := h

theorem unsupported {path construct : String} (h : s.Settled root) :
    Settles root s (Build.unsupported path construct : Build α) := h

theorem updateClass {id : ClassId} {f : ClassModel → ClassModel} (h : (s.change id f).Settled root) :
    Settles root s (Build.updateClass id f) := h

theorem ofExcept_bind {e : Except Failure α} (h : s.Settled root)
    (k : ∀ x, e = .ok x → Settles root s (next x)) :
    Settles root s (Build.ofExcept e >>= next) := by
  cases e with
  | ok x => exact k x rfl
  | error failure => exact h

theorem graph_bind {next : ClassGraph → Build β} (k : Settles root s (next s.graph)) :
    Settles root s (Build.graph >>= next) := k

theorem get_bind {next : BuildState → Build β} (k : Settles root s (next s)) :
    Settles root s (get >>= next) := k

theorem set_bind {next : PUnit → Build β} (k : Settles root s' (next ⟨⟩)) :
    Settles root s (set s' >>= next) := k

/-- A step after another one, which has been traced. -/
theorem bind (sound : s.Sound source) (traces : Traces source floor s step P)
    (h : Settles root s step)
    (k : ∀ x s', step s = .ok x s' → s'.Sound source → Done source floor s s' → P x s' →
      s'.Settled root → Settles root s' (next x)) : Settles root s (step >>= next) := by
  unfold Settles
  rw [bind_apply]
  cases run : step s with
  | error failure s' => exact h.of_error run
  | ok x s' =>
    obtain ⟨steps, finished, post⟩ := traces.of_ok run
    exact k x s' run (steps.sound sound) ⟨steps.kept, steps, finished⟩ post (h.of_ok run)

/-- Releasing a pointer changes no class. -/
theorem releasing (h : Settles root s step) (pointer : String) :
    Settles root s (Build.releasing pointer step) := by
  unfold Settles Build.releasing
  cases run : step s with
  | ok x s' =>
    have settled := h.of_ok run
    exact settled
  | error failure s' =>
    have settled := h.of_error run
    exact settled

/-- The classes stay settled from one member of a list to the next. -/
theorem mapM (sound : s.Sound source) (settled : s.Settled root) {f : α → Build β} {as : List α}
    (traces : ∀ a ∈ as, ∀ s', s'.Sound source → Done source floor s s' →
      Traces source floor s' (f a) fun _ _ => True)
    (h : ∀ a ∈ as, ∀ s', s'.Sound source → Done source floor s s' → s'.Settled root →
      Settles root s' (f a)) : Settles root s (as.mapM f) := by
  induction as generalizing s with
  | nil => exact settled
  | cons a rest ih =>
    rw [List.mapM_cons]
    refine bind sound (traces a List.mem_cons_self s sound (.refl source floor s))
      (h a List.mem_cons_self s sound (.refl source floor s) settled)
      fun b s₁ _ sound₁ done₁ _ settled₁ => ?_
    have later {s' : BuildState} (done : Done source floor s₁ s') : Done source floor s s' :=
      done₁.trans done
    refine bind sound₁ (.mapM (R := fun _ _ => True) sound₁ fun a' mem s' sound' done =>
        traces a' (List.mem_cons_of_mem a mem) s' sound' (later done))
      (ih sound₁ settled₁
        (fun a' mem s' sound' done => traces a' (List.mem_cons_of_mem a mem) s' sound' (later done))
        fun a' mem s' sound' done => h a' (List.mem_cons_of_mem a mem) s' sound' (later done))
      fun bs s₂ _ _ _ _ settled₂ => ?_
    exact .pure settled₂

end Settles

end Build

structure Builders.Settling (source : Source) (builders : Builders) : Prop where
  classFor : ∀ {node : Node} {s : BuildState} {referencing : Option ClassId} (fallback : String),
    s.Sound source → source.root.Reached node → isClassSchema node true = .ok true →
    s.LeadsTo node.path referencing → s.Settled source.root →
    Build.Settles source.root s (builders.classFor node fallback referencing)
  typeFor : ∀ {node : Node} {s : BuildState} {owner : ClassId} (nameHint : String),
    s.Sound source → source.root.Reached node → s.IsActive owner → s.Settled source.root →
    Build.Settles source.root s (builders.typeFor node nameHint owner)

section

variable {source : Source} {builders : Builders} {node : Node} {s : BuildState} {owner : ClassId}

open Build

theorem Builders.Settling.classForOwner (h : builders.Settling source) (sound : s.Sound source)
    (reached : source.root.Reached node) (isClass : isClassSchema node true = .ok true)
    (active : s.IsActive owner) (settled : s.Settled source.root) (fallback : String) :
    Settles source.root s (builders.classFor node fallback (some owner)) :=
  h.classFor fallback sound reached isClass active settled

/-! ## Types -/

theorem buildEnum_settles (nameHint : String) (active : s.IsActive owner)
    (settled : s.Settled source.root) :
    Settles source.root s (buildEnum node nameHint owner) := by
  unfold buildEnum
  refine .ofExcept_bind settled fun values _ => .ofExcept_bind settled fun types _ => ?_
  split
  · exact .unsupported settled
  · refine .graph_bind ?_
    split
    · exact .pure settled
    · refine .ofExcept_bind settled fun name _ => .ofExcept_bind settled fun _ _ => ?_
      exact settled.change (f := fun model => { model with enums := model.enums ++ [_] }) active
        ⟨rfl, rfl, rfl, rfl⟩ rfl rfl Iff.rfl (.inl rfl)

variable (traced : builders.Traced source) (h : builders.Settling source)
include traced h

theorem buildReference_settles (sound : s.Sound source) (within : source.root.Within node)
    (isReference : node.has "$ref") (active : s.IsActive owner) (settled : s.Settled source.root) :
    Settles source.root s (buildReference source builders node owner) := by
  unfold buildReference
  refine .ofExcept_bind settled fun resolved found => .ofExcept_bind settled fun isClass hclass => ?_
  have reached : source.root.Reached resolved.target := .reference within isReference found
  split
  · rename_i yes
    exact .bind sound (traced.classForOwner sound reached (yes ▸ hclass) active _)
      (h.classForOwner sound reached (yes ▸ hclass) active settled _)
      fun _ _ _ _ _ _ settled' => .pure settled'
  · refine .get_bind ?_
    simp only
    split
    · exact .throw settled
    · have entered : Step source s.graph.size s { s with
          inProgress := Pointer.canonical resolved.pointer :: s.inProgress } := .progress _
      have sound' := entered.sound sound
      have active' : BuildState.IsActive { s with
          inProgress := Pointer.canonical resolved.pointer :: s.inProgress } owner :=
        ⟨active.inside, active.pending, active.later⟩
      have traces := traced.typeFor (Pointer.tail resolved.pointer) sound' reached active'
      have target := h.typeFor (Pointer.tail resolved.pointer) sound' reached active' settled
      refine .set_bind (.bind (P := fun _ _ => True) sound'
        (.releasing (.ofExcept_bind fun _ _ => traces) _)
        (.releasing (.ofExcept_bind (s := { s with
          inProgress := Pointer.canonical resolved.pointer :: s.inProgress }) settled
          fun _ _ => target) _) ?_)
      exact fun _ _ _ _ _ _ settled' => .pure settled'

/-- By the form of the schema: no class becomes complete but those of the schemas that it names. -/
theorem buildType_settles (sound : s.Sound source) (reached : source.root.Reached node)
    (nameHint : String) (active : s.IsActive owner) (settled : s.Settled source.root) :
    Settles source.root s (buildType source builders node nameHint owner) := by
  have inner {items : Node} (reached : source.root.Reached items) {α : Type}
      {next : TypeRef × Node → Build α}
      (k : ∀ built s', s'.Settled source.root → Settles source.root s' (next built)) :
      Settles source.root s (builders.typeFor items nameHint owner >>= next) :=
    .bind sound (traced.typeFor nameHint sound reached active)
      (h.typeFor nameHint sound reached active settled) fun built s' _ _ _ _ settled' =>
        k built s' settled'
  rw [buildType_eq]
  refine .ofExcept_bind settled fun form isForm => ?_
  have has := Node.HasForm.of_form isForm
  have within := reached.within
  cases has with
  | reference isReference =>
    exact buildReference_settles traced h sound within isReference active settled
  | any => exact .pure settled
  | enum =>
    have traces : Traces source 0 s (buildEnum node nameHint owner) fun _ _ => True :=
      buildEnum_traces nameHint active
    exact .bind sound traces (buildEnum_settles nameHint active settled)
      fun _ _ _ _ _ _ settled' => .pure settled'
  | nullable _ beside =>
    have alternative := (Option.filter_eq_some_iff.1 beside).1
    exact h.typeFor nameHint sound (.nullable within alternative) active settled
  | ofClass isClass =>
    have asked := isClassSchema_true isClass
    exact .bind sound (traced.classForOwner sound reached asked active nameHint)
      (h.classForOwner sound reached asked active settled nameHint)
      fun _ _ _ _ _ _ settled' => .pure settled'
  | anySequence => exact .pure settled
  | sequence _ found =>
    exact inner (.of_member? within found) fun _ _ settled' =>
      .ofExcept_bind settled' fun _ _ => .pure settled'
  | map _ found => exact inner (.of_member? within found) fun _ _ settled' => .pure settled'
  | plain => exact .pure settled

/-! ## Properties -/

theorem buildProperty_settles (sound : s.Sound source) (reached : source.root.Reached node)
    (name : String) (isRequired : Bool) (active : s.IsActive owner)
    (settled : s.Settled source.root) :
    Settles source.root s (buildProperty builders name node isRequired owner) := by
  unfold buildProperty
  split
  · exact .unsupported settled
  · refine .bind sound (traced.typeFor name sound reached active)
      (h.typeFor name sound reached active settled) fun _ s' _ _ _ _ settled' => ?_
    exact .ofExcept_bind settled' fun _ _ => .ofExcept_bind settled' fun _ _ => .pure settled'

theorem buildProperties_settles (sound : s.Sound source) (within : source.root.Within node)
    (active : s.IsActive owner) (settled : s.Settled source.root) (skipped : List String) :
    Settles source.root s (buildProperties builders node owner skipped) := by
  have build {properties : Node} (found : node.member? "properties" = some properties)
      (required : List Value) : Settles source.root s
        (buildProperties.build builders owner skipped properties required) := by
    have reached {kept : String × Node → Bool} {member : String × Node}
        (mem : member ∈ properties.members.filter kept) : source.root.Reached member.2 :=
      .of_mem_members (within.member? found) (List.mem_filter.1 mem).1
    refine .mapM sound settled (fun member mem s' sound' (done : Done source s.graph.size s s') =>
      ?_) fun member mem s' sound' done settled' => ?_
    · exact (buildProperty_traces traced sound' (reached mem) _ _
        (done.active active active.inside)).mono done.size_le fun _ _ _ => trivial
    · exact buildProperty_settles traced h sound' (reached mem) _ _
        (done.active active active.inside) settled'
  unfold buildProperties
  split
  · exact .pure settled
  · rename_i properties found
    split
    · exact .unsupported settled
    · split
      · exact build found _
      · split
        · exact build found _
        · exact .unsupported settled

/-! ## Extensions -/

theorem addParts_settles (sound : s.Sound source) (active : s.IsActive owner)
    (settled : s.Settled source.root) {inherited : List String} {own : List Property}
    {parts : List Node} (within : ∀ part ∈ parts, source.root.Within part) :
    Settles source.root s (addParts builders owner inherited own parts) := by
  induction parts generalizing own s with
  | nil => exact .pure settled
  | cons part rest ih =>
    obtain ⟨withinFirst, withinRest⟩ := List.forall_mem_cons.1 within
    unfold addParts
    refine .bind sound (buildProperties_traces traced sound withinFirst active [])
      (buildProperties_settles traced h sound withinFirst active settled [])
      fun properties s' _ sound' done _ settled' => .ofExcept_bind settled' fun all _ => ?_
    exact ih sound' (done.active active active.inside) settled' withinRest

theorem buildBase_settles (sound : s.Sound source) (within : source.root.Within node)
    (isReference : node.has "$ref") (active : s.IsActive owner) (settled : s.Settled source.root) :
    Settles source.root s (buildBase source builders owner node) := by
  unfold buildBase
  refine .ofExcept_bind settled fun resolved found => .ofExcept_bind settled fun isClass hclass => ?_
  split
  · exact .unsupported settled
  · rename_i yes
    have asked : isClassSchema resolved.target true = .ok true := by simpa [hclass] using yes
    have reached : source.root.Reached resolved.target := .reference within isReference found
    refine .bind sound (traced.classForOwner sound reached asked active _)
      (h.classForOwner sound reached asked active settled _)
      fun base s' _ _ _ _ settled' => .graph_bind ?_
    simp only
    split
    · exact .throw settled'
    · split
      · exact .unsupported settled'
      · exact .pure settled'

/-- The class itself is settled when it becomes complete, at the end. -/
theorem buildExtension_settles {members : Node} (sound : s.Sound source)
    (within : source.root.Within node) (found : node.member? "allOf" = some members)
    (active : s.IsActive owner) (blank : (s.graph.get owner).Blank)
    (settled : s.Settled source.root) :
    Settles source.root s (buildExtension source builders owner node members) := by
  unfold buildExtension
  refine .ofExcept_bind settled fun parts hsplit => ?_
  obtain ⟨reference, inline⟩ := parts
  obtain ⟨href, isReference, hinline⟩ := mem_of_splitAllOf hsplit
  have item {part : Node} (mem : part ∈ members.items) : source.root.Within part :=
    (within.member? found).items mem
  have parts : ∀ part ∈ inline ++ [node], source.root.Within part := by
    intro part mem
    rcases List.mem_append.1 mem with mem | mem
    · exact item (hinline part mem)
    · exact List.mem_singleton.1 mem ▸ within
  refine .bind sound (buildBase_traces traced sound (item href) isReference active)
    (buildBase_settles traced h sound (item href) isReference active settled)
    fun base s₁ _ sound₁ done₁ isBase settled₁ => .graph_bind ?_
  have active₁ := done₁.active active active.inside
  have inherited : ((s₁.graph.allProperties base).map (·.name) ++
      ([] : List Property).map (·.name)).Nodup := by
    have insideBase := ClassGraph.lt_size_of_built isBase.1.1
    simpa [DistinctNames] using sound₁.composition.distinct insideBase
  refine .bind sound₁ (addParts_traces traced sound₁ active₁ inherited parts)
    (addParts_settles traced h sound₁ active₁ settled₁ parts)
    fun own s₂ _ sound₂ done₂ _ settled₂ => .updateClass ?_
  have blank₂ : (s₂.graph.get owner).Blank :=
    (blank.of_same (done₁.content active.inside active.inside)).of_same
      (done₂.content active₁.inside active₁.inside)
  refine settled₂.change (done₂.active active₁ active₁.inside) ⟨rfl, rfl, rfl, rfl⟩ rfl rfl ?_
    (.inr (sound₂.composition.unreached_of_blank blank₂))
  have closed := (ClassKind.ne_of_plain_or_data (kindFor_eq (s₁.graph.allProperties base ++ own))).2
  simp [closed, blank₂.kind]

/-! ## Alternatives -/

section

variable (reading : builders.Reading source) {choice alternative : Node} {shared : List Property}
  {paths : List String}
include reading

/-- An alternative is complete when it has its properties, and settled then. -/
theorem buildVariant_settles {schema : Node} (sound : s.Sound source)
    (isOpen : IsOpen choice owner shared paths s) (active : s.IsActive owner)
    (isAlternative : source.root.HasAlternative choice alternative)
    (fresh : alternative.path ∉ paths)
    (target : source.root.alternativeTarget alternative = .ok schema)
    (simple : isAlternativeSchema schema = .ok true) (within : source.root.Within schema)
    {name : String} (named : IsClassName name) (settled : s.Settled source.root) :
    Settles source.root s
      (buildVariant builders owner (shared.map (·.name)) alternative.path name schema) := by
  have run := @buildVariant_apply builders s owner alternative.path name schema
    (shared.map (·.name))
  cases free : checkFreeIn s.graph name alternative.path owner with
  | error failure =>
    simp only [free] at run
    exact .of_fails run settled
  | ok _ =>
    simp only [free] at run
    refine .of_apply run ?_
    have begun := begin_variant sound isOpen active isAlternative fresh named
      (isFreeIn_of_checkFreeIn free)
    have settled₁ := settled.declare sound begun.step begun.declares
    have self₁ := begun.declares.get_size sound.nesting
    refine .bind begun.sound (buildProperties_traces traced begun.sound within begun.active _)
      (buildProperties_settles traced h begun.sound within begun.active settled₁ _)
      fun properties s₂ hproperties sound₂ done₂ _ settled₂ => .updateClass ?_
    have inside₂ := Nat.lt_of_lt_of_le begun.active.inside done₂.size_le
    have kind : (s₂.graph.get s.graph.size).kind = .nestedVariant := by
      rw [(done₂.content begun.active.inside begun.active.inside).kind, self₁]
      rfl
    have unreached := sound₂.composition.unreached_of_variant kind
    refine settled₂.complete inside₂ ⟨rfl, rfl, rfl, rfl⟩ rfl Iff.rfl (.inr unreached) ?_
    have done : buildVariant builders owner (shared.map (·.name)) alternative.path name schema s =
        .ok () (s₂.change s.graph.size fun model => { model with properties, built := true }) := by
      rw [run]
      exact Build.bind_eq_ok_iff.2 ⟨properties, s₂, hproperties, rfl⟩
    have new := (buildVariant_reads traced reading sound isOpen active isAlternative fresh target
      simple within named done).1
    refine ⟨new _ (Nat.le_refl _) (by simpa using inside₂), fun _ isOpen => ?_⟩
    rw [s₂.change_get_self inside₂, kind] at isOpen
    cases isOpen

theorem buildAlternative_settles (sound : s.Sound source)
    (isOpen : IsOpen choice owner shared paths s) (active : s.IsActive owner)
    (isAlternative : source.root.HasAlternative choice alternative)
    (fresh : alternative.path ∉ paths) (settled : s.Settled source.root) (keyword : String) :
    Settles source.root s
      (buildAlternative source builders owner keyword (shared.map (·.name)) alternative) := by
  unfold buildAlternative
  split
  · exact .unsupported settled
  · refine .ofExcept_bind settled fun named found => .ofExcept_bind settled fun simple hsimple => ?_
    split
    · rename_i yes
      exact buildVariant_settles traced h reading sound isOpen active isAlternative fresh
        (alternativeTarget_of_alternativeSchema found) (yes ▸ hsimple)
        (within_of_alternativeSchema isAlternative.within found)
        (isClassName_of_alternativeSchema found) settled
    · exact .unsupported settled

/-- By induction on the alternatives that are left to be added to the base. -/
theorem alternatives_settles (sound : s.Sound source) (isOpen : IsOpen choice owner shared paths s)
    (active : s.IsActive owner) {rest : List Node}
    (areAlternatives : ∀ alternative ∈ rest, source.root.HasAlternative choice alternative)
    (distinct : (rest.map (·.path)).Nodup) (fresh : ∀ alternative ∈ rest, alternative.path ∉ paths)
    (settled : s.Settled source.root) (keyword : String) :
    Settles source.root s
      (rest.forM (buildAlternative source builders owner keyword (shared.map (·.name)))) := by
  induction rest generalizing s paths with
  | nil => exact .pure settled
  | cons alternative rest ih =>
    obtain ⟨apart, distinct⟩ := List.nodup_cons.1 distinct
    obtain ⟨isAlternative, areAlternatives⟩ := List.forall_mem_cons.1 areAlternatives
    obtain ⟨freshFirst, freshRest⟩ := List.forall_mem_cons.1 fresh
    refine .bind sound (buildAlternative_traces traced sound isOpen active isAlternative freshFirst _)
      (buildAlternative_settles traced h reading sound isOpen active isAlternative freshFirst
        settled _)
      fun _ s' _ sound' done isOpen' settled' => ?_
    exact ih sound' isOpen' (done.active_of_pending active isOpen'.pending) areAlternatives distinct
      (by grind) settled'

/-- The base becomes complete after its last alternative, with all of them in their order. -/
theorem buildAlternatives_settles (sound : s.Sound source) (within : source.root.Within node)
    (isClass : isClassSchema node true = .ok true)
    (isChoice : node.has "oneOf" ∨ node.has "anyOf") (active : s.IsActive owner)
    (blank : (s.graph.get owner).Blank) (path : (s.graph.get owner).path = node.path)
    (settled : s.Settled source.root) :
    Settles source.root s (buildAlternatives source builders owner node) := by
  unfold buildAlternatives
  split
  · exact .unsupported settled
  · rename_i notBoth
    obtain ⟨keyword, hkeyword, isKeyword, -, -⟩ := exists_choiceKeyword isChoice notBoth
    simp only [hkeyword]
    split
    · exact .pure settled
    · rename_i alternatives found
      split
      · exact .unsupported settled
      · -- The class becomes an open base.
        refine .bind sound (.updateClass (P := fun _ t => IsOpen node owner [] [] t)
          (Nat.le_refl _) active (.openBase blank) (.of_blank sound active.inside blank path))
          (.updateClass (settled.change active ⟨rfl, rfl, rfl, rfl⟩ rfl rfl (by simp [blank.kind])
            (.inl rfl)))
          fun _ s₁ _ sound₁ done₁ isOpen₁ settled₁ => ?_
        have active₁ := done₁.active_of_pending active isOpen₁.pending
        -- It gets the shared properties.
        refine .bind sound₁ (buildProperties_traces traced sound₁ within active₁ [])
          (buildProperties_settles traced h sound₁ within active₁ settled₁ [])
          fun shared s₂ _ sound₂ done₂ own settled₂ => ?_
        have isOpen₂ := isOpen₁.of_kept done₂.toKept
        have active₂ := done₂.active active₁ active₁.inside
        have childless (other : ClassId) : (s₂.graph.get other).base ≠ some owner := fun child =>
          absurd (isOpen₂.children other child) List.not_mem_nil
        refine .bind sound₂ (.updateClass (P := fun _ t => IsOpen node owner shared [] t)
          (Nat.le_refl _) active₂ (.share isOpen₂.kind childless own.1) (isOpen₂.share shared))
          (.updateClass (settled₂.change active₂ ⟨rfl, rfl, rfl, rfl⟩ rfl rfl Iff.rfl
            (.inr childless)))
          fun _ s₃ _ sound₃ done₃ isOpen₃ settled₃ => ?_
        -- The alternatives are declared in it.
        exact alternatives_settles traced h reading sound₃ isOpen₃
          (done₃.active_of_pending active₂ isOpen₃.pending)
          (fun _ mem => .of within isClass isKeyword found mem) alternatives.nodup_items_path
          (fun _ _ => List.not_mem_nil) settled₃ keyword

/-! ## Classes -/

theorem fillClass_settles (sound : s.Sound source) (within : source.root.Within node)
    (isClass : isClassSchema node true = .ok true) (active : s.IsActive owner)
    (blank : (s.graph.get owner).Blank) (path : (s.graph.get owner).path = node.path)
    (settled : s.Settled source.root) :
    Settles source.root s (fillClass source builders owner node) := by
  unfold fillClass
  split
  · rename_i members found
    exact buildExtension_settles traced h sound within found active blank settled
  · split
    · rename_i isChoice
      exact buildAlternatives_settles traced h reading sound within isClass (by simpa using isChoice)
        active blank path settled
    · refine .bind sound (buildProperties_traces traced sound within active [])
        (buildProperties_settles traced h sound within active settled [])
        fun properties s₁ _ sound₁ done₁ _ settled₁ => .updateClass ?_
      have blank₁ := blank.of_same (done₁.content active.inside active.inside)
      refine settled₁.change (done₁.active active active.inside) ⟨rfl, rfl, rfl, rfl⟩ rfl rfl ?_
        (.inr (sound₁.composition.unreached_of_blank blank₁))
      have closed := (ClassKind.ne_of_plain_or_data (kindFor_eq properties)).2
      simp [closed, blank₁.kind]

/-- A class that is returned as it is changes nothing; a new one is settled when it becomes
complete. -/
theorem buildClass_settles (sound : s.Sound source) (reached : source.root.Reached node)
    (isClass : isClassSchema node true = .ok true) {referencing : Option ClassId}
    (leads : s.LeadsTo node.path referencing) (settled : s.Settled source.root)
    (fallback : String) :
    Settles source.root s (buildClass source builders node fallback referencing) := by
  cases cached : s.classOf.lookup node.path with
  | some known =>
    have known : Settles source.root s (Pure.pure known : Build ClassId) := .pure settled
    exact .of_apply (buildClass_cached cached) known
  | none =>
    have run := @buildClass_fresh source builders node fallback referencing s cached
    cases hplacement : s.placement node fallback referencing with
    | error failure =>
      simp only [hplacement] at run
      exact .of_fails run settled
    | ok placed =>
      obtain ⟨name, enclosing, reserved⟩ := placed
      simp only [hplacement] at run
      refine .of_apply run ?_
      have declares : s.Declares source _ _ := .begin leads hplacement
      have step : Step source s.graph.size s (s.begin reserved
          (blankClass source node name enclosing) referencing) :=
        .declare reached isClass cached leads hplacement (declares.inside sound.nesting)
      have sound₁ := step.sound sound
      have active₁ := declares.active sound.nesting
      have self := declares.get_size sound.nesting
      have blank : ((s.begin reserved (blankClass source node name enclosing)
          referencing).graph.get s.graph.size).Blank := by
        rw [self]
        exact ⟨rfl, rfl, rfl, rfl⟩
      have path : ((s.begin reserved (blankClass source node name enclosing)
          referencing).graph.get s.graph.size).path = node.path := by
        rw [self]
        rfl
      refine .bind sound₁
        (fillClass_traces traced sound₁ reached.within isClass active₁ declares.size blank path)
        (fillClass_settles traced h reading sound₁ reached.within isClass active₁ blank path
          (settled.declare sound step declares))
        fun _ s₂ fill sound₂ done₂ filled settled₂ => ?_
      -- The class is complete now, and is read.
      have inside₂ := filled.active.inside
      have done : buildClass source builders node fallback referencing s = .ok s.graph.size
          (s₂.change s.graph.size fun model => { model with built := true }) := by
        rw [run]
        exact Build.bind_eq_ok_iff.2 ⟨_, s₂, fill, rfl⟩
      have new := buildClass_reads traced reading sound reached isClass leads done
      have read := new s.graph.size (Nat.le_refl _) (by simpa using inside₂)
      have completes := BuildState.Settled.complete (f := fun model => { model with built := true })
        settled₂ inside₂ ⟨rfl, rfl, rfl, rfl⟩ rfl Iff.rfl (.inl rfl)
      refine completes ⟨read, fun {choice} within isOpen at' => ?_⟩
      rw [s₂.variantPaths_change inside₂ ⟨rfl, rfl, rfl, rfl⟩ rfl Iff.rfl]
      have here : (s₂.graph.get s.graph.size).path = node.path :=
        (done₂.declaration active₁.inside).path.trans path
      rw [s₂.change_get_self inside₂] at isOpen at'
      obtain rfl := within.eq_of_path sound.distinct sound.top reached.within
        (at'.symm.trans here)
      refine fillClass_variantPaths traced reading sound₁ within isClass ?_ active₁ blank
        (by rw [self]; rfl) path (ClassGraph.variantPaths_eq_nil (by rw [self]; rfl)) fill
      cases read with
      | variant _ _ kind =>
        rw [s₂.change_get_self inside₂, isOpen] at kind
        cases kind
      | filled within' path' _ _ isOpen' =>
        rw [s₂.change_get_self inside₂] at path' isOpen'
        rw [within.eq_of_path sound.distinct sound.top within' (here.symm.trans path')]
        exact isOpen'.1 isOpen

end

end

/-- The builders to any depth leave the complete classes settled. -/
theorem builders_settling (source : Source) (depth : Nat) :
    (SchemaClasses.builders source depth).Settling source := by
  induction depth with
  | zero => exact ⟨fun _ _ _ _ _ settled => settled, fun _ _ _ _ settled => settled⟩
  | succ depth ih =>
    have traced := builders_traced source depth
    have reading := builders_reading source depth
    exact ⟨fun fallback sound reached isClass leads settled =>
        buildClass_settles traced ih reading sound reached isClass leads settled fallback,
      fun nameHint sound reached active settled =>
        buildType_settles traced ih sound reached nameHint active settled⟩

/-! ## Runs -/

/-- The complete classes are settled in every state of a run, also when a call has failed. The
induction is on the calls. -/
theorem Run.settled {source : Source} {registered : List Definition}
    {returned : List (Definition × ClassId)} {succeeded : Bool} {s : BuildState}
    (distinct : source.root.value.distinctKeys) (top : source.root.path = "")
    (run : Run source registered returned succeeded s) : s.Settled source.root := by
  have empty := BuildState.Unbuilt.empty distinct top
  have settling := builders_settling source (depthBound source.root.value)
  have build {entry : Definition} {s : BuildState} (sound : s.Sound source)
      (isRegistered : IsRegistered source s entry) (settled : s.Settled source.root)
      (fallback : String) :=
    settling.classFor fallback sound (.keyed isRegistered.keyed) isRegistered.isClass
      isRegistered.leadsTo settled
  induction run with
  | start => exact .of_empty rfl
  | @root name? _ _ run =>
    obtain ⟨name, s₁, hregister, hbuild⟩ := Build.bind_eq_ok_iff.1 run
    obtain ⟨unbuilt, isRegistered⟩ := (registerRoot_ends empty name?).of_ok hregister
    exact (build unbuilt.sound isRegistered (.of_empty unbuilt.size) _).of_ok hbuild
  | @rootFails name? _ _ run =>
    rcases Build.bind_eq_error_iff.1 run with hregister | ⟨name, s₁, hregister, hbuild⟩
    · exact .of_empty ((registerRoot_ends empty name?).of_error hregister).size
    · obtain ⟨unbuilt, isRegistered⟩ := (registerRoot_ends empty name?).of_ok hregister
      exact (build unbuilt.sound isRegistered (.of_empty unbuilt.size) _).of_error hbuild
  | register found run =>
    obtain ⟨keyed, paths⟩ := keyed_of_definitions distinct found
    obtain ⟨unbuilt, -, -⟩ := (registerDefinitions_ends empty keyed paths).of_ok run
    exact .of_empty unbuilt.size
  | registerFails found run =>
    obtain ⟨keyed, paths⟩ := keyed_of_definitions distinct found
    exact .of_empty ((registerDefinitions_ends empty keyed paths).of_error run).size
  | build before mem run ih =>
    have invariant := before.invariant distinct top
    exact (build invariant.sound (invariant.registration _ mem) ih _).of_ok run
  | buildFails before mem run ih =>
    have invariant := before.invariant distinct top
    exact (build invariant.sound (invariant.registration _ mem) ih _).of_error run

end SchemaClasses
