import SchemaClasses.Proofs.Build.Form
import SchemaClasses.Proofs.Document.Resolver

/-!
# What is in progress during a build

While the type of a reference is built from its target, its pointer is in progress. The block in
which it is ends with the step that builds the type, whether this succeeds or fails at any depth, so
that a build leaves the pointers in progress that it has found.

## Main definitions

* `Build.Keeps`: a step leaves the pointers in progress as they were.
* `Build.entering`: a step in a block that is opened for a reference.
* `Builders.Keep`: builders that leave the pointers in progress as they were.

## Main statements

* `buildReference_eq`: the type of a reference is built in a block.
* `builders_keep`: the builders to any depth leave the pointers in progress as they were.
-/

namespace SchemaClasses

namespace Build

variable {α β : Type} {inProgress : List String}

/-! ## Steps -/

/-- A step leaves the pointers in progress as they were, also when it fails. -/
def Keeps (inProgress : List String) (step : Build α) : Prop :=
  ∀ s, s.inProgress = inProgress →
    match step s with
    | .ok _ after => after.inProgress = inProgress
    | .error _ after => after.inProgress = inProgress

/-- A step in a block that is opened for a reference and ends with the step. -/
def entering (root : Node) (reference : String) (step : Build α) : Build α := fun s =>
  match enter root s.inProgress reference with
  | .error failure => .error failure s
  | .ok resolved =>
    releasing resolved.pointer step { s with inProgress := resolved.pointer :: s.inProgress }

/-- The pointer of the block is in progress when the reference is resolved. -/
theorem entering_apply (root : Node) (reference : String) (step : Build α) (s : BuildState) :
    entering root reference step s =
      if Pointer.canonical reference ∈ s.inProgress then
        .error (.cyclicReference reference
          "cycle through a type that is not an object class") s
      else releasing (Pointer.canonical reference) (do
        let _ ← Build.ofExcept (resolve root reference)
        step) { s with inProgress := Pointer.canonical reference :: s.inProgress } := by
  rw [entering]
  by_cases marked : Pointer.canonical reference ∈ s.inProgress
  · rw [enter_marked marked, if_pos marked]
  · rw [enter_unmarked marked, if_neg marked]
    cases resolve root reference with
    | ok target => rw [ofExcept_bind_ok]; rfl
    | error failure =>
      have released (pointer : String) :
          { s with inProgress := (pointer :: s.inProgress).erase pointer } = s := by
        rw [List.erase_cons_head]
      rw [ofExcept_bind_error]
      exact congrArg (EStateM.Result.error failure) (released _).symm

namespace Keeps

theorem pure (a : α) : Keeps inProgress (Pure.pure a) := fun _ h => h

theorem throw (failure : Failure) : Keeps inProgress (throw failure : Build α) := fun _ h => h

theorem unsupported (path construct : String) :
    Keeps inProgress (Build.unsupported path construct : Build α) :=
  .throw _

theorem ofExcept (result : Except Failure α) : Keeps inProgress (Build.ofExcept result) := by
  cases result with
  | ok a => exact .pure a
  | error failure => exact .throw failure

theorem graph : Keeps inProgress Build.graph := fun _ h => h

theorem bind {step : Build α} {next : α → Build β} (h : Keeps inProgress step)
    (k : ∀ a, Keeps inProgress (next a)) : Keeps inProgress (step >>= next) := by
  intro s hs
  have kept := h s hs
  rw [bind_apply]
  cases run : step s with
  | ok a after =>
    rw [run] at kept
    exact k a after kept
  | error failure after =>
    rw [run] at kept
    exact kept

/-- After the state has been read, it is known what is in progress in it. -/
theorem get_bind {next : BuildState → Build β}
    (k : ∀ s, s.inProgress = inProgress → Keeps inProgress (next s)) :
    Keeps inProgress (get >>= next) :=
  fun s hs => k s hs s hs

theorem set {s : BuildState} (h : s.inProgress = inProgress) : Keeps inProgress (set s) :=
  fun _ _ => h

theorem modify {f : BuildState → BuildState} (h : ∀ s, (f s).inProgress = s.inProgress) :
    Keeps inProgress (modify f : Build Unit) :=
  fun s hs => (h s).trans hs

theorem updateClass (id : ClassId) (change : ClassModel → ClassModel) :
    Keeps inProgress (Build.updateClass id change) :=
  .modify fun _ => rfl

theorem mapM {f : α → Build β} (h : ∀ a, Keeps inProgress (f a)) (as : List α) :
    Keeps inProgress (as.mapM f) := by
  induction as with
  | nil =>
    rw [List.mapM_nil]
    exact .pure []
  | cons a rest ih =>
    rw [List.mapM_cons]
    exact .bind (h a) fun b => .bind ih fun bs => .pure (b :: bs)

theorem forM {f : α → Build Unit} (h : ∀ a, Keeps inProgress (f a)) (as : List α) :
    Keeps inProgress (as.forM f) := by
  induction as with
  | nil => exact .pure ()
  | cons a rest ih => exact .bind (h a) fun _ => ih

/-- At the end of a block its pointer is not in progress any more. -/
theorem releasing {pointer : String} {step : Build α} {s : BuildState}
    (hs : s.inProgress = pointer :: inProgress) (h : Keeps (pointer :: inProgress) step) :
    match Build.releasing pointer step s with
    | .ok _ after => after.inProgress = inProgress
    | .error _ after => after.inProgress = inProgress := by
  have kept := h s hs
  unfold Build.releasing
  cases run : step s <;> simp_all

/-- A pointer is put in progress for the time of a block, and none is added after that. -/
theorem entering {root : Node} {reference : String} {step : Build α}
    (h : ∀ pointer, Keeps (pointer :: inProgress) step) :
    Keeps inProgress (Build.entering root reference step) := by
  intro s hs
  unfold Build.entering
  cases enter root s.inProgress reference with
  | error failure => exact hs
  | ok resolved => exact releasing (by rw [hs]) (h resolved.pointer)

end Keeps

end Build

/-! ## Builders -/

structure Builders.Keep (builders : Builders) : Prop where
  classFor : ∀ inProgress node fallback referencing,
    Build.Keeps inProgress (builders.classFor node fallback referencing)
  typeFor : ∀ inProgress node nameHint owner,
    Build.Keeps inProgress (builders.typeFor node nameHint owner)

section

variable {source : Source} {builders : Builders} {inProgress : List String}

open Build

theorem buildEnum_keeps (node : Node) (nameHint : String) (owner : ClassId) :
    Keeps inProgress (buildEnum node nameHint owner) := by
  unfold buildEnum
  refine .bind (.ofExcept _) fun values => .bind (.ofExcept _) fun types => ?_
  split
  · exact .unsupported _ _
  · refine .bind .graph fun graph => ?_
    split
    · exact .pure _
    · refine .bind (.ofExcept _) fun name => .bind (.ofExcept _) fun _ => ?_
      exact .bind (.updateClass _ _) fun _ => .pure _

theorem buildSequence_keeps (h : builders.Keep) (node : Node) (nameHint : String)
    (owner : ClassId) : Keeps inProgress (buildSequence builders node nameHint owner) := by
  unfold buildSequence
  split
  · exact .pure _
  · split
    · exact .unsupported _ _
    · split
      · exact .pure _
      · exact .bind (h.typeFor _ _ _ _) fun _ => .bind (.ofExcept _) fun _ => .pure _

theorem buildMap_keeps (h : builders.Keep) (node : Node) (nameHint : String) (owner : ClassId) :
    Keeps inProgress (buildMap builders node nameHint owner) := by
  unfold buildMap
  split
  · exact .pure _
  · split
    · exact .bind (h.typeFor _ _ _ _) fun _ => .pure _
    · exact .pure _

theorem buildPlainType_keeps (h : builders.Keep) (node : Node) (types : List String)
    (nameHint : String) (owner : ClassId) :
    Keeps inProgress (buildPlainType builders node types nameHint owner) := by
  unfold buildPlainType
  split
  · split
    · exact buildSequence_keeps h node nameHint owner
    · split
      · exact .unsupported _ _
      · exact .pure _
  · split
    · exact buildSequence_keeps h node nameHint owner
    · exact buildMap_keeps h node nameHint owner
    · exact .ofExcept _
    · exact .ofExcept _
    · exact .ofExcept _
    · exact .ofExcept _
    · exact .unsupported _ _

/-- The type of a reference that is not to a class is built from its target, in a block that is
opened for the pointer of the target. -/
theorem buildReference_eq (source : Source) (builders : Builders) (node : Node) (owner : ClassId) :
    buildReference source builders node owner = do
      let resolved ← Build.ofExcept (follow source.root node)
      let fallback := Pointer.tail resolved.pointer
      if ← Build.ofExcept (isClassSchema resolved.target true) then
        let id ← builders.classFor resolved.target fallback (some owner)
        return (.ofClass id, resolved.target)
      else
        let (type, _) ← Build.entering source.root resolved.pointer
          (builders.typeFor resolved.target fallback owner)
        return (type, resolved.target) := by
  unfold buildReference
  refine bind_congr fun resolved => bind_congr fun isClass => ?_
  split
  · rfl
  · funext s
    rw [bind_apply, get_apply, bind_apply, Build.entering_apply]
    simp only
    split
    · rfl
    · rw [bind_apply, set_apply]
      exact bind_apply _ _ _

theorem buildReference_keeps (h : builders.Keep) (node : Node) (owner : ClassId) :
    Keeps inProgress (buildReference source builders node owner) := by
  rw [buildReference_eq]
  refine .bind (.ofExcept _) fun resolved => .bind (.ofExcept _) fun isClass => ?_
  split
  · exact .bind (h.classFor _ _ _ _) fun _ => .pure _
  · exact .bind (.entering fun _ => h.typeFor _ _ _ _) fun _ => .pure _

/-- Only a reference puts a pointer in progress, and takes it out again. -/
theorem buildType_keeps (h : builders.Keep) (node : Node) (nameHint : String) (owner : ClassId) :
    Keeps inProgress (buildType source builders node nameHint owner) := by
  unfold buildType
  split
  · exact buildReference_keeps h node owner
  · split
    · exact .pure _
    · refine .bind (.ofExcept _) fun types => ?_
      split
      · exact .bind (buildEnum_keeps node nameHint owner) fun _ => .pure _
      · split
        · exact h.typeFor _ _ _ _
        · refine .bind (.ofExcept _) fun isClass => ?_
          split
          · exact .bind (h.classFor _ _ _ _) fun _ => .pure _
          · exact .bind (buildPlainType_keeps h node types nameHint owner) fun _ => .pure _

theorem buildProperty_keeps (h : builders.Keep) (name : String) (node : Node) (isRequired : Bool)
    (owner : ClassId) : Keeps inProgress (buildProperty builders name node isRequired owner) := by
  unfold buildProperty
  split
  · exact .unsupported _ _
  · refine .bind (h.typeFor _ _ _ _) fun _ => ?_
    exact .bind (.ofExcept _) fun _ => .bind (.ofExcept _) fun _ => .pure _

theorem buildProperties_keeps (h : builders.Keep) (node : Node) (owner : ClassId)
    (skipped : List String) : Keeps inProgress (buildProperties builders node owner skipped) := by
  have build (properties : Node) (required : List Value) :
      Keeps inProgress (buildProperties.build builders owner skipped properties required) :=
    .mapM (fun member => buildProperty_keeps h _ _ _ _) _
  unfold buildProperties
  split
  · exact .pure _
  · split
    · exact .unsupported _ _
    · split
      · exact build _ _
      · split
        · exact build _ _
        · exact .unsupported _ _

theorem addParts_keeps (h : builders.Keep) (id : ClassId) (inherited : List String)
    (parts : List Node) (own : List Property) :
    Keeps inProgress (addParts builders id inherited own parts) := by
  induction parts generalizing own with
  | nil => exact .pure _
  | cons part rest ih =>
    unfold addParts
    exact .bind (buildProperties_keeps h part id []) fun _ => .bind (.ofExcept _) fun own => ih own

theorem buildBase_keeps (h : builders.Keep) (id : ClassId) (reference : Node) :
    Keeps inProgress (buildBase source builders id reference) := by
  unfold buildBase
  refine .bind (.ofExcept _) fun resolved => .bind (.ofExcept _) fun isClass => ?_
  split
  · exact .unsupported _ _
  · refine .bind (h.classFor _ _ _ _) fun base => .bind .graph fun graph => ?_
    simp only
    split
    · exact .throw _
    · split
      · exact .unsupported _ _
      · exact .pure _

theorem buildExtension_keeps (h : builders.Keep) (id : ClassId) (node members : Node) :
    Keeps inProgress (buildExtension source builders id node members) := by
  unfold buildExtension
  refine .bind (.ofExcept _) fun parts => .bind (buildBase_keeps h id _) fun base => ?_
  refine .bind .graph fun graph => .bind (addParts_keeps h id _ _ _) fun own => ?_
  exact .updateClass _ _

theorem createClass_keeps (model : ClassModel) : Keeps inProgress (createClass model) := by
  intro s hs
  rw [createClass_apply]
  exact hs

theorem buildVariant_keeps (h : builders.Keep) (base : ClassId) (shared : List String)
    (path name : String) (schema : Node) :
    Keeps inProgress (buildVariant builders base shared path name schema) := by
  unfold buildVariant
  refine .bind .graph fun graph => .bind (.ofExcept _) fun _ => ?_
  refine .bind (createClass_keeps _) fun variant => ?_
  exact .bind (buildProperties_keeps h schema variant shared) fun _ => .updateClass _ _

theorem buildAlternative_keeps (h : builders.Keep) (base : ClassId) (keyword : String)
    (shared : List String) (alternative : Node) :
    Keeps inProgress (buildAlternative source builders base keyword shared alternative) := by
  unfold buildAlternative
  split
  · exact .unsupported _ _
  · refine .bind (.ofExcept _) fun named => .bind (.ofExcept _) fun isClass => ?_
    split
    · exact buildVariant_keeps h base shared _ _ _
    · exact .unsupported _ _

theorem buildAlternatives_keeps (h : builders.Keep) (id : ClassId) (node : Node) :
    Keeps inProgress (buildAlternatives source builders id node) := by
  unfold buildAlternatives
  split
  · exact .unsupported _ _
  · simp only
    split
    · exact .pure _
    · split
      · exact .unsupported _ _
      · refine .bind (.updateClass _ _) fun _ => ?_
        refine .bind (buildProperties_keeps h node id []) fun _ => ?_
        exact .bind (.updateClass _ _) fun _ => .forM (buildAlternative_keeps h id _ _) _

theorem fillClass_keeps (h : builders.Keep) (id : ClassId) (node : Node) :
    Keeps inProgress (fillClass source builders id node) := by
  unfold fillClass
  split
  · exact buildExtension_keeps h id node _
  · split
    · exact buildAlternatives_keeps h id node
    · exact .bind (buildProperties_keeps h node id []) fun _ => .updateClass _ _

theorem buildClass_keeps (h : builders.Keep) (node : Node) (fallback : String)
    (referencing : Option ClassId) :
    Keeps inProgress (buildClass source builders node fallback referencing) := by
  intro s hs
  cases cached : s.classOf.lookup node.path with
  | some id =>
    rw [buildClass_cached cached]
    exact hs
  | none =>
    rw [buildClass_fresh cached]
    cases s.placement node fallback referencing with
    | error failure => exact hs
    | ok placed =>
      have fill : Keeps inProgress (fillClass source builders s.graph.size node) :=
        fillClass_keeps h s.graph.size node
      have finish := fill.bind fun _ => (Keeps.updateClass s.graph.size fun model =>
        { model with built := true }).bind fun _ => .pure s.graph.size
      exact finish _ ((BuildState.begin_inProgress _ _ _ _).trans hs)

/-- The builders to any depth leave the pointers in progress as they were. -/
theorem builders_keep (source : Source) (depth : Nat) :
    (SchemaClasses.builders source depth).Keep := by
  induction depth with
  | zero => exact ⟨fun _ _ _ _ => .throw _, fun _ _ _ _ => .throw _⟩
  | succ depth ih =>
    exact ⟨fun _ node fallback referencing => buildClass_keeps ih node fallback referencing,
      fun _ node nameHint owner => buildType_keeps ih node nameHint owner⟩

/-! ## Runs -/

theorem pinName_keeps (node : Node) (name : String) : Keeps inProgress (pinName node name) := by
  unfold pinName
  exact .get_bind fun s hs => .bind (.ofExcept _) fun reserved => .set hs

theorem registerRoot_keeps (node : Node) (name? : Option String) :
    Keeps inProgress (registerRoot node name?) := by
  unfold registerRoot
  refine .bind (.ofExcept _) fun isClass => ?_
  split
  · exact .unsupported _ _
  · exact .bind (.ofExcept _) fun name => .bind (pinName_keeps node name) fun _ => .pure _

/-- Building the class of a document leaves the pointers in progress as they were. -/
theorem buildRoot_keeps (source : Source) (node : Node) (name? : Option String) :
    Keeps inProgress (buildRoot source node name?) := by
  unfold buildRoot
  exact .bind (registerRoot_keeps node name?) fun name => (builders_keep source _).classFor _ _ _ _

/-- Building the class of a member leaves the pointers in progress as they were. -/
theorem buildDefinition_keeps (source : Source) (entry : Definition) :
    Keeps inProgress (buildDefinition source entry) :=
  (builders_keep source _).classFor _ _ _ _

end

/-- Whatever has been called of a resolver, it marks just the pointers of the open blocks, refuses
to open a block just for those, changes nothing when it opens none, and tells just for those that
they are in progress. A build leaves those that it has found, whether it succeeds or fails. -/
theorem Resolver.reports_afterCalls (root : Node) (calls : List Resolver.Call) (source : Source) :
    (Resolver.afterCalls { root } calls).Reports (Resolver.openAfter { root } [] calls) ∧
      (∀ inProgress node name?, Build.Keeps inProgress (buildRoot source node name?)) ∧
      ∀ inProgress entry, Build.Keeps inProgress (buildDefinition source entry) :=
  ⟨((Resolver.Tracks.of_root root).afterCalls calls).reports,
    fun _ node name? => buildRoot_keeps source node name?,
    fun _ entry => buildDefinition_keeps source entry⟩

end SchemaClasses
