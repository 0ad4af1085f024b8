import SchemaClasses.Proofs.Build.Effects
import SchemaClasses.Proofs.Build.Schemas
import SchemaClasses.Proofs.Document.Chains

/-!
# Termination of a build

The builders recurse through properties, through references and through the parts of `allOf` and
`oneOf`, so that no single measure decreases. A step into a schema makes the schema smaller. A
reference may lead to a larger one, but either it begins a class, which no other step of the run
begins again, or it takes a pointer into progress that was not in progress. What is left of both
bounds the depth of the recursion.

## Main definitions

* `buildersOver`: the builders to a depth, with what happens below it as a parameter.
* `Build.Agree`: two steps do the same, as long as a property of states holds.
* `Budget`: how many classes can still be begun, and which pointers are in progress.

## Main statements

* `buildersOver_agree`: within its budget, a build never goes below its depth.
* `Source.build_terminates`: a run for a document never goes below the depth that is computed from
  the document, and its builders satisfy the recursion without a bound.
-/

namespace SchemaClasses

/-- The builders that recurse to a depth, and go on below it as `limit` says. -/
def buildersOver (source : Source) (limit : Builders) : Nat → Builders
  | 0 => limit
  | depth + 1 =>
    { classFor := fun node fallback referencing =>
        buildClass source (buildersOver source limit depth) node fallback referencing
      typeFor := fun node fallback owner =>
        buildType source (buildersOver source limit depth) node fallback owner }

def exhaustedBuilders : Builders where
  classFor node _ _ := throw (.cyclicReference node.path "")
  typeFor node _ _ := throw (.cyclicReference node.path "")

/-- The builders to a depth fail below it. -/
theorem builders_eq_buildersOver (source : Source) (depth : Nat) :
    builders source depth = buildersOver source exhaustedBuilders depth := by
  induction depth with
  | zero => rfl
  | succ depth ih => simp only [builders, buildersOver, ih]

theorem buildersOver_add (source : Source) (limit : Builders) (depth extra : Nat) :
    buildersOver source limit (depth + extra) =
      buildersOver source (buildersOver source limit extra) depth := by
  induction depth with
  | zero => rw [Nat.zero_add, buildersOver]
  | succ depth ih => rw [Nat.add_right_comm, buildersOver, buildersOver, ih]

/-! ## Agreement of steps -/

namespace Build

variable {α β : Type} {P Q R : BuildState → Prop}

/-- Two steps do the same from the states with the property `P`, and when they succeed they lead to
states with the property `Q`. -/
def Agree (P Q : BuildState → Prop) (a b : Build α) : Prop :=
  ∀ s, P s → a s = b s ∧ ∀ x s', a s = .ok x s' → Q s'

theorem Agree.pure (x : α) : Agree P P (Pure.pure x) (Pure.pure x) := by
  intro s hs
  refine ⟨rfl, fun y s' h => ?_⟩
  cases h
  exact hs

theorem Agree.throw (failure : Failure) : Agree P Q (throw failure : Build α) (throw failure) :=
  fun _ _ => ⟨rfl, fun _ _ h => by cases h⟩

theorem Agree.unsupported (path construct : String) :
    Agree P Q (Build.unsupported path construct : Build α) (Build.unsupported path construct) :=
  .throw _

theorem Agree.ofExcept (e : Except Failure α) :
    Agree P P (Build.ofExcept e) (Build.ofExcept e) := by
  cases e with
  | ok x => exact .pure x
  | error failure => exact .throw failure

theorem Agree.bind {a b : Build α} {f g : α → Build β} (h : Agree P Q a b)
    (k : ∀ x, Agree Q R (f x) (g x)) : Agree P R (a >>= f) (b >>= g) := by
  intro s hs
  obtain ⟨eq, keep⟩ := h s hs
  rw [bind_apply, bind_apply, ← eq]
  cases hrun : a s with
  | ok x s' => exact k x s' (keep x s' hrun)
  | error e s' => exact ⟨rfl, fun _ _ h => by cases h⟩

/-- After a checked result, the continuation may use that it is one. -/
theorem Agree.ofExcept_bind {e : Except Failure α} {f g : α → Build β}
    (k : ∀ x, e = .ok x → Agree P Q (f x) (g x)) :
    Agree P Q (Build.ofExcept e >>= f) (Build.ofExcept e >>= g) := by
  cases e with
  | ok x => exact fun s hs => k x rfl s hs
  | error failure => exact .throw failure

theorem Agree.graph : Agree P P Build.graph Build.graph := by
  intro s hs
  refine ⟨rfl, fun y s' h => ?_⟩
  cases h
  exact hs

/-- After the state has been read, the continuation may use that it has the property. -/
theorem Agree.get_bind {f g : BuildState → Build β}
    (k : ∀ s, P s → Agree (fun t => t = s) Q (f s) (g s)) : Agree P Q (get >>= f) (get >>= g) :=
  fun s hs => k s hs s rfl

theorem Agree.set {s : BuildState} (h : Q s) : Agree P Q (set s) (set s) := by
  refine fun _ _ => ⟨rfl, fun y s' h' => ?_⟩
  cases h'
  exact h

theorem Agree.modify {f : BuildState → BuildState} (h : ∀ s, P s → Q (f s)) :
    Agree P Q (modify f) (modify f) := by
  refine fun s hs => ⟨rfl, fun y s' h' => ?_⟩
  cases h'
  exact h s hs

theorem Agree.mapM {f g : α → Build β} {as : List α} (h : ∀ a ∈ as, Agree P P (f a) (g a)) :
    Agree P P (as.mapM f) (as.mapM g) := by
  induction as with
  | nil =>
    rw [List.mapM_nil, List.mapM_nil]
    exact .pure []
  | cons a rest ih =>
    rw [List.mapM_cons, List.mapM_cons]
    refine .bind (h a List.mem_cons_self) fun b => ?_
    refine .bind (ih fun a' ha' => h a' (List.mem_cons_of_mem a ha')) fun bs => ?_
    exact .pure (b :: bs)

theorem Agree.forM {f g : α → Build Unit} {as : List α} (h : ∀ a ∈ as, Agree P P (f a) (g a)) :
    Agree P P (as.forM f) (as.forM g) := by
  induction as with
  | nil => exact .pure ()
  | cons a rest ih =>
    exact .bind (h a List.mem_cons_self) fun _ => ih fun a' ha' => h a' (List.mem_cons_of_mem a ha')

end Build

/-! ## The budget of a build -/

def BuildState.unbegun (root : Node) (state : BuildState) : Nat :=
  root.nodes.countP fun node => (state.classOf.lookup node.path).isNone

def unentered (root : Node) (inProgress : List String) : Nat :=
  root.pointers.countP fun pointer => !inProgress.contains (Pointer.canonical pointer)

/-- A bound for the classes that can still be begun, and the pointers in progress. -/
structure Budget (root : Node) (classes : Nat) (inProgress : List String) (state : BuildState) :
    Prop where
  classes : state.unbegun root ≤ classes
  inProgress : state.inProgress = inProgress

def depthFor (root : Node) (classes : Nat) (inProgress : List String) : Nat :=
  (classes + unentered root inProgress) * (root.value.size + 2)

theorem BuildState.unbegun_le (root : Node) (state : BuildState) :
    state.unbegun root ≤ root.value.size :=
  Nat.le_trans List.countP_le_length (Nat.le_of_eq root.length_nodes)

theorem unentered_le (root : Node) (inProgress : List String) :
    unentered root inProgress ≤ root.value.size :=
  Nat.le_trans List.countP_le_length root.length_pointers_le

/-- Counting fewer members of a list. -/
theorem countP_lt_countP {α : Type} {p q : α → Bool} {as : List α} (le : ∀ a, q a → p a)
    {a : α} (mem : a ∈ as) (hp : p a) (hq : q a = false) : as.countP q < as.countP p := by
  induction as with
  | nil => cases mem
  | cons first rest ih =>
    have tail : rest.countP q ≤ rest.countP p := List.countP_mono_left fun b _ => le b
    rcases List.mem_cons.1 mem with rfl | mem
    · rw [List.countP_cons_of_pos hp, List.countP_cons_of_neg (by simp [hq])]
      omega
    · have := ih mem
      have := le first
      simp only [List.countP_cons]
      split <;> split <;> first | omega | simp_all

theorem unentered_cons_lt {root : Node} {inProgress : List String} {pointer : String}
    (mem : pointer ∈ root.pointers) (fresh : Pointer.canonical pointer ∉ inProgress) :
    unentered root (Pointer.canonical pointer :: inProgress) < unentered root inProgress :=
  countP_lt_countP (by simp) mem (by simpa using fresh) (by simp)

namespace Budget

variable {root : Node} {classes : Nat} {inProgress : List String} {state : BuildState}

theorem withGraph (h : Budget root classes inProgress state) (graph : ClassGraph) :
    Budget root classes inProgress { state with graph } :=
  ⟨h.classes, h.inProgress⟩

theorem declare (h : Budget root classes inProgress state) (model : ClassModel) :
    Budget root classes inProgress (state.declare model) := by
  refine ⟨Nat.le_trans (List.countP_mono_left fun node _ left => ?_) h.classes, h.inProgress⟩
  rw [BuildState.declare_classOf, lookup_setMember] at left
  split at left
  · cases left
  · exact left

/-- Beginning the class of a node that has none spends one class. -/
theorem begin {node : Node} (h : Budget root classes inProgress state)
    (within : root.Within node) (fresh : state.classOf.lookup node.path = none)
    (reserved : ReservedNames) (model : ClassModel) (path : model.path = node.path)
    (referencing : Option ClassId) :
    0 < classes ∧
      Budget root (classes - 1) inProgress (state.begin reserved model referencing) := by
  have less : (state.begin reserved model referencing).unbegun root < state.unbegun root := by
    refine countP_lt_countP (fun other => ?_) within.mem_nodes (by simp [fresh]) ?_
    · rw [BuildState.begin_classOf, lookup_setMember]
      split <;> simp
    · rw [BuildState.begin_classOf, lookup_setMember, if_pos path.symm]
      rfl
  have le := h.classes
  exact ⟨by omega, by omega, by rw [BuildState.begin_inProgress, h.inProgress]⟩

end Budget

/-! ## Agreement of builders -/

/-- Two ways to build do the same for the classes of all nodes of a document and for the types of
those smaller than a bound. -/
structure Builders.Agree (root : Node) (P : BuildState → Prop) (bound : Nat) (a b : Builders) :
    Prop where
  classFor : ∀ {node : Node}, root.Within node → ∀ fallback referencing,
    Build.Agree P P (a.classFor node fallback referencing) (b.classFor node fallback referencing)
  typeFor : ∀ {node : Node}, root.Within node → node.value.size < bound → ∀ nameHint owner,
    Build.Agree P P (a.typeFor node nameHint owner) (b.typeFor node nameHint owner)

section

variable {source : Source} {P : BuildState → Prop} {bound : Nat} {a b : Builders} {node : Node}

open Build

theorem updateClass_agree (keep : ∀ s graph, P s → P { s with graph }) (id : ClassId)
    (change : ClassModel → ClassModel) :
    Agree P P (Build.updateClass id change) (Build.updateClass id change) :=
  .modify fun s hs => keep s _ hs

theorem buildEnum_agree (keep : ∀ s graph, P s → P { s with graph }) (nameHint : String)
    (owner : ClassId) :
    Agree P P (buildEnum node nameHint owner) (buildEnum node nameHint owner) := by
  unfold buildEnum
  refine .bind (.ofExcept _) fun values => .bind (.ofExcept _) fun types => ?_
  split
  · exact .unsupported _ _
  · refine .bind .graph fun graph => ?_
    split
    · exact .pure _
    · refine .bind (.ofExcept _) fun name => .bind (.ofExcept _) fun _ => ?_
      exact .bind (updateClass_agree keep _ _) fun _ => .pure _

theorem buildSequence_agree (h : Builders.Agree source.root P node.value.size a b)
    (within : source.root.Within node) (nameHint : String) (owner : ClassId) :
    Agree P P (buildSequence a node nameHint owner) (buildSequence b node nameHint owner) := by
  unfold buildSequence
  split
  · exact .pure _
  · rename_i items found
    split
    · exact .unsupported _ _
    · split
      · exact .pure _
      · have item := h.typeFor (within.member? found) (Node.size_lt_of_member? found)
        exact .bind (item nameHint owner) fun _ => .bind (.ofExcept _) fun _ => .pure _

theorem buildMap_agree (h : Builders.Agree source.root P node.value.size a b)
    (within : source.root.Within node) (nameHint : String) (owner : ClassId) :
    Agree P P (buildMap a node nameHint owner) (buildMap b node nameHint owner) := by
  unfold buildMap
  split
  · exact .pure _
  · rename_i values found
    split
    · have value := h.typeFor (within.member? found) (Node.size_lt_of_member? found)
      exact .bind (value nameHint owner) fun _ => .pure _
    · exact .pure _

theorem buildPlainType_agree (h : Builders.Agree source.root P node.value.size a b)
    (within : source.root.Within node) (types : List String) (nameHint : String)
    (owner : ClassId) :
    Agree P P (buildPlainType a node types nameHint owner)
      (buildPlainType b node types nameHint owner) := by
  unfold buildPlainType
  split
  · split
    · exact buildSequence_agree h within nameHint owner
    · split
      · exact .unsupported _ _
      · exact .pure _
  · split
    · exact buildSequence_agree h within nameHint owner
    · exact buildMap_agree h within nameHint owner
    · exact .ofExcept _
    · exact .ofExcept _
    · exact .ofExcept _
    · exact .ofExcept _
    · exact .unsupported _ _

theorem buildProperty_agree (h : Builders.Agree source.root P bound a b)
    (within : source.root.Within node) (small : node.value.size < bound) (name : String)
    (isRequired : Bool) (owner : ClassId) :
    Agree P P (buildProperty a name node isRequired owner)
      (buildProperty b name node isRequired owner) := by
  unfold buildProperty
  split
  · exact .unsupported _ _
  · refine .bind (h.typeFor within small name owner) fun _ => ?_
    exact .bind (.ofExcept _) fun _ => .bind (.ofExcept _) fun _ => .pure _

theorem buildProperties_agree (h : Builders.Agree source.root P (source.root.value.size + 1) a b)
    (within : source.root.Within node) (owner : ClassId) (skipped : List String) :
    Agree P P (buildProperties a node owner skipped) (buildProperties b node owner skipped) := by
  have build {properties : Node} (found : node.member? "properties" = some properties)
      (required : List Value) :
      Agree P P (buildProperties.build a owner skipped properties required)
        (buildProperties.build b owner skipped properties required) := by
    refine .mapM fun member mem => ?_
    have inside := (within.member? found).members (List.mem_filter.1 mem).1
    exact buildProperty_agree h inside (Nat.lt_succ_of_le inside.size_le) _ _ _
  unfold buildProperties
  split
  · exact .pure _
  · rename_i properties found
    split
    · exact .unsupported _ _
    · split
      · exact build found _
      · split
        · exact build found _
        · exact .unsupported _ _

theorem addParts_agree (h : Builders.Agree source.root P (source.root.value.size + 1) a b)
    (id : ClassId) (inherited : List String) {parts : List Node}
    (within : ∀ part ∈ parts, source.root.Within part) (own : List Property) :
    Agree P P (addParts a id inherited own parts) (addParts b id inherited own parts) := by
  induction parts generalizing own with
  | nil => exact .pure _
  | cons part rest ih =>
    unfold addParts
    refine .bind (buildProperties_agree h (within part List.mem_cons_self) id []) fun _ => ?_
    refine .bind (.ofExcept _) fun _ => ?_
    exact ih (fun part' mem => within part' (List.mem_cons_of_mem part mem)) _

theorem buildBase_agree (h : Builders.Agree source.root P bound a b) (id : ClassId)
    (within : source.root.Within node) :
    Agree P P (buildBase source a id node) (buildBase source b id node) := by
  unfold buildBase
  refine .ofExcept_bind fun resolved found => .bind (.ofExcept _) fun isClass => ?_
  split
  · exact .unsupported _ _
  · refine .bind (h.classFor (within.follow found) _ _) fun base => .bind .graph fun graph => ?_
    simp only
    split
    · exact .throw _
    · split
      · exact .unsupported _ _
      · exact .pure _

theorem buildExtension_agree (keep : ∀ s graph, P s → P { s with graph })
    (h : Builders.Agree source.root P (source.root.value.size + 1) a b)
    (within : source.root.Within node) (id : ClassId) {members : Node}
    (found : node.member? "allOf" = some members) :
    Agree P P (buildExtension source a id node members)
      (buildExtension source b id node members) := by
  unfold buildExtension
  refine .ofExcept_bind fun parts hsplit => ?_
  obtain ⟨reference, inline⟩ := parts
  obtain ⟨href, -, hinline⟩ := mem_of_splitAllOf hsplit
  have inside {part : Node} (mem : part ∈ members.items) : source.root.Within part :=
    (within.member? found).items mem
  refine .bind (buildBase_agree h id (inside href)) fun base => .bind .graph fun graph => ?_
  have parts : ∀ part ∈ inline ++ [node], source.root.Within part := by
    intro part mem
    rcases List.mem_append.1 mem with mem | mem
    · exact inside (hinline part mem)
    · exact List.mem_singleton.1 mem ▸ within
  exact .bind (addParts_agree h id _ parts _) fun own => updateClass_agree keep _ _

theorem buildVariant_agree (keep : ∀ s graph, P s → P { s with graph })
    (create : ∀ model, Agree P P (createClass model) (createClass model))
    (h : Builders.Agree source.root P (source.root.value.size + 1) a b) (base : ClassId)
    (shared : List String) (path name : String) (within : source.root.Within node) :
    Agree P P (buildVariant a base shared path name node)
      (buildVariant b base shared path name node) := by
  unfold buildVariant
  refine .bind .graph fun graph => .bind (.ofExcept _) fun _ => .bind (create _) fun variant => ?_
  refine .bind (buildProperties_agree h within variant shared) fun properties => ?_
  exact updateClass_agree keep _ _

theorem buildAlternative_agree (keep : ∀ s graph, P s → P { s with graph })
    (create : ∀ model, Agree P P (createClass model) (createClass model))
    (h : Builders.Agree source.root P (source.root.value.size + 1) a b) (base : ClassId)
    (keyword : String) (shared : List String) (within : source.root.Within node) :
    Agree P P (buildAlternative source a base keyword shared node)
      (buildAlternative source b base keyword shared node) := by
  unfold buildAlternative
  split
  · exact .unsupported _ _
  · refine .ofExcept_bind fun named hschema => .bind (.ofExcept _) fun isClass => ?_
    split
    · have inside := within_of_alternativeSchema within hschema
      exact buildVariant_agree keep create h base shared _ _ inside
    · exact .unsupported _ _

theorem buildAlternatives_agree (keep : ∀ s graph, P s → P { s with graph })
    (create : ∀ model, Agree P P (createClass model) (createClass model))
    (h : Builders.Agree source.root P (source.root.value.size + 1) a b)
    (within : source.root.Within node) (id : ClassId) :
    Agree P P (buildAlternatives source a id node) (buildAlternatives source b id node) := by
  unfold buildAlternatives
  split
  · exact .unsupported _ _
  · simp only
    split
    · exact .pure _
    · rename_i alternatives found
      split
      · exact .unsupported _ _
      · refine .bind (updateClass_agree keep _ _) fun _ => ?_
        refine .bind (buildProperties_agree h within id []) fun shared => ?_
        refine .bind (updateClass_agree keep _ _) fun _ => .forM fun alternative mem => ?_
        have inside := (within.member? found).items mem
        exact buildAlternative_agree keep create h id _ _ inside

theorem fillClass_agree (keep : ∀ s graph, P s → P { s with graph })
    (create : ∀ model, Agree P P (createClass model) (createClass model))
    (h : Builders.Agree source.root P (source.root.value.size + 1) a b)
    (within : source.root.Within node) (id : ClassId) :
    Agree P P (fillClass source a id node) (fillClass source b id node) := by
  unfold fillClass
  split
  · rename_i members found
    exact buildExtension_agree keep h within id found
  · split
    · exact buildAlternatives_agree keep create h within id
    · refine .bind (buildProperties_agree h within id []) fun properties => ?_
      exact updateClass_agree keep _ _

end

/-! ## Depth and budget -/

section

variable {source : Source} {classes bound : Nat} {inProgress : List String} {a b : Builders}
  {node : Node}

open Build

theorem createClass_agree (model : ClassModel) :
    Agree (Budget source.root classes inProgress) (Budget source.root classes inProgress)
      (createClass model) (createClass model) := by
  refine fun s hs => ⟨rfl, fun id s' h => ?_⟩
  rw [createClass_apply] at h
  cases h
  exact hs.declare model

/-- A class that is begun is one fewer of those that can still be begun. -/
theorem buildClass_agree (within : source.root.Within node)
    (h : 0 < classes → Builders.Agree source.root (Budget source.root (classes - 1) inProgress)
      (source.root.value.size + 1) a b) (fallback : String) (referencing : Option ClassId) :
    Agree (Budget source.root classes inProgress) (Budget source.root classes inProgress)
      (buildClass source a node fallback referencing)
      (buildClass source b node fallback referencing) := by
  intro s hs
  cases hcached : s.classOf.lookup node.path with
  | some id =>
    rw [buildClass_cached hcached, buildClass_cached hcached]
    refine ⟨rfl, fun id' s' heq => ?_⟩
    cases heq
    exact hs
  | none =>
    rw [buildClass_fresh hcached, buildClass_fresh hcached]
    cases s.placement node fallback referencing with
    | error failure => exact ⟨rfl, fun _ _ heq => by cases heq⟩
    | ok placed =>
      obtain ⟨name, enclosing, reserved⟩ := placed
      obtain ⟨pos, spent⟩ := hs.begin within hcached reserved
        (blankClass source node name enclosing) rfl referencing
      have fill := fillClass_agree (fun _ graph ht => ht.withGraph graph) createClass_agree (h pos)
        within s.graph.size
      have finish := fill.bind fun _ => (updateClass_agree (fun _ graph ht => ht.withGraph graph)
        s.graph.size fun model => { model with built := true }).bind fun _ => .pure s.graph.size
      obtain ⟨eq, keep⟩ := finish _ spent
      refine ⟨eq, fun id s' run => ?_⟩
      have left := keep id s' run
      exact ⟨Nat.le_trans left.classes (Nat.sub_le _ _), left.inProgress⟩

/-- A pointer that is released can be entered again. -/
theorem releasing_agree {α : Type} {x y : Build α} {pointer : String}
    (h : Agree (Budget source.root classes (pointer :: inProgress))
      (Budget source.root classes (pointer :: inProgress)) x y) :
    Agree (Budget source.root classes (pointer :: inProgress))
      (Budget source.root classes inProgress) (Build.releasing pointer x)
      (Build.releasing pointer y) := by
  intro s hs
  obtain ⟨eq, keep⟩ := h s hs
  unfold Build.releasing
  rw [← eq]
  refine ⟨rfl, fun v s' heq => ?_⟩
  cases hrun : x s with
  | ok v' after =>
    rw [hrun] at heq
    cases heq
    have left := keep v after hrun
    exact ⟨left.classes, by simp [left.inProgress]⟩
  | error failure after =>
    rw [hrun] at heq
    cases heq

/-- A reference that is entered is one fewer of those whose targets are not in progress. -/
theorem buildReference_agree (within : source.root.Within node) (isReference : node.has "$ref")
    (h : Builders.Agree source.root (Budget source.root classes inProgress) bound a b)
    (enter : ∀ pointer, unentered source.root (pointer :: inProgress) <
      unentered source.root inProgress → Builders.Agree source.root
        (Budget source.root classes (pointer :: inProgress)) (source.root.value.size + 1) a b)
    (owner : ClassId) :
    Agree (Budget source.root classes inProgress) (Budget source.root classes inProgress)
      (buildReference source a node owner) (buildReference source b node owner) := by
  unfold buildReference
  refine .ofExcept_bind fun resolved found => .bind (.ofExcept _) fun isClass => ?_
  have inside := within.follow found
  split
  · exact .bind (h.classFor inside _ _) fun id => .pure _
  · refine .get_bind fun s hs => ?_
    split
    · exact .throw _
    · rename_i fresh
      rw [hs.inProgress] at fresh ⊢
      have entered : Budget source.root classes (Pointer.canonical resolved.pointer :: inProgress)
          { s with inProgress := Pointer.canonical resolved.pointer :: inProgress } :=
        ⟨hs.classes, rfl⟩
      refine .bind (.set entered) fun _ => .bind (releasing_agree ?_) fun _ => .pure _
      have less := unentered_cons_lt (within.pointer_of_follow isReference found) fresh
      refine .bind (.ofExcept _) fun _ => ?_
      exact (enter _ less).typeFor inside (Nat.lt_succ_of_le inside.size_le) _ _

/-- The parts of a schema are smaller than the schema; only a reference leads to a larger one, and
is entered. -/
theorem buildType_agree (within : source.root.Within node)
    (h : Builders.Agree source.root (Budget source.root classes inProgress) node.value.size a b)
    (enter : ∀ pointer, unentered source.root (pointer :: inProgress) <
      unentered source.root inProgress → Builders.Agree source.root
        (Budget source.root classes (pointer :: inProgress)) (source.root.value.size + 1) a b)
    (nameHint : String) (owner : ClassId) :
    Agree (Budget source.root classes inProgress) (Budget source.root classes inProgress)
      (buildType source a node nameHint owner) (buildType source b node nameHint owner) := by
  unfold buildType
  split
  · rename_i isReference
    exact buildReference_agree within isReference h enter owner
  · split
    · exact .pure _
    · refine .bind (.ofExcept _) fun types => ?_
      split
      · exact .bind (buildEnum_agree (fun _ graph ht => ht.withGraph graph) _ _) fun _ => .pure _
      · split
        · rename_i alternative found
          obtain ⟨_, alternatives, -, hmember, mem⟩ :=
            Node.mem_of_nullableAlternative? (Option.filter_eq_some_iff.1 found).1
          have smaller := Nat.lt_trans (Node.size_lt_of_mem_items mem)
            (Node.size_lt_of_member? hmember)
          exact h.typeFor ((within.member? hmember).items mem) smaller _ _
        · refine .bind (.ofExcept _) fun isClass => ?_
          split
          · exact .bind (h.classFor within _ _) fun _ => .pure _
          · exact .bind (buildPlainType_agree h within _ _ _) fun _ => .pure _

end

/-! ## The bound -/

/-- One class fewer takes a round of references and of schemas off the depth. -/
theorem depthFor_pred (root : Node) {classes : Nat} (inProgress : List String)
    (pos : 0 < classes) :
    depthFor root (classes - 1) inProgress + (root.value.size + 2) =
      depthFor root classes inProgress := by
  unfold depthFor
  rw [← Nat.succ_mul]
  congr 1
  omega

theorem depthFor_cons_le {root : Node} (classes : Nat) {inProgress : List String}
    {pointer : String} (less : unentered root (pointer :: inProgress) < unentered root inProgress) :
    depthFor root classes (pointer :: inProgress) + (root.value.size + 2) ≤
      depthFor root classes inProgress := by
  unfold depthFor
  rw [← Nat.succ_mul]
  exact Nat.mul_le_mul_right _ (by omega)

/-- Within its budget a build does not go below its depth, so that it does not matter what would
happen there. The induction is on the depth: beginning a class or entering a pointer pays for going
to any node of the document, and every other step goes to a smaller node, or from a type to its
class. -/
theorem buildersOver_agree (source : Source) (limit limit' : Builders) (depth : Nat) :
    ∀ classes inProgress,
      (∀ {node : Node}, source.root.Within node →
        depthFor source.root classes inProgress + 1 ≤ depth → ∀ fallback referencing,
        Build.Agree (Budget source.root classes inProgress) (Budget source.root classes inProgress)
          ((buildersOver source limit depth).classFor node fallback referencing)
          ((buildersOver source limit' depth).classFor node fallback referencing)) ∧
      ∀ {node : Node}, source.root.Within node →
        depthFor source.root classes inProgress + node.value.size + 1 ≤ depth →
        ∀ nameHint owner,
        Build.Agree (Budget source.root classes inProgress) (Budget source.root classes inProgress)
          ((buildersOver source limit depth).typeFor node nameHint owner)
          ((buildersOver source limit' depth).typeFor node nameHint owner) := by
  induction depth with
  | zero => exact fun _ _ => ⟨fun _ h => by omega, fun _ h => by omega⟩
  | succ depth ih =>
    intro classes inProgress
    have builders {classes bound : Nat} {inProgress : List String}
        (enough : ∀ size, size < bound → size ≤ source.root.value.size →
          depthFor source.root classes inProgress + size + 1 ≤ depth)
        (pos : depthFor source.root classes inProgress + 1 ≤ depth) :
        Builders.Agree source.root (Budget source.root classes inProgress) bound
          (buildersOver source limit depth) (buildersOver source limit' depth) :=
      ⟨fun within => (ih classes inProgress).1 within pos,
        fun within small => (ih classes inProgress).2 within (enough _ small within.size_le)⟩
    constructor
    · intro node within enough fallback referencing
      refine buildClass_agree within (fun pos => ?_) fallback referencing
      have paid := depthFor_pred source.root inProgress pos
      exact builders (fun size _ le => by omega) (by omega)
    · intro node within enough nameHint owner
      have size := node.value.size_pos
      refine buildType_agree within (builders (fun size _ le => by omega) (by omega))
        (fun pointer less => ?_) nameHint owner
      have paid := depthFor_cons_le classes less
      exact builders (fun size _ le => by omega) (by omega)

/-- The depth that a build needs is within the bound that is computed from the document. -/
theorem depthFor_le (root : Node) {classes : Nat} (few : classes ≤ root.value.size)
    (inProgress : List String) :
    depthFor root classes inProgress + root.value.size + 1 ≤ depthBound root.value := by
  unfold depthFor depthBound
  have entered := unentered_le root inProgress
  calc (classes + unentered root inProgress) * (root.value.size + 2) + root.value.size + 1
      ≤ 2 * (root.value.size + 2) * (root.value.size + 2) + (root.value.size + 2) := by
        have := Nat.mul_le_mul_right (root.value.size + 2)
          (show classes + unentered root inProgress ≤ 2 * (root.value.size + 2) by omega)
        omega
    _ ≤ 3 * (root.value.size + 2) * (root.value.size + 2) := by
        have := Nat.mul_le_mul_right (root.value.size + 2)
          (show 2 * (root.value.size + 2) + 1 ≤ 3 * (root.value.size + 2) by omega)
        rwa [Nat.succ_mul] at this

section

variable (source : Source) (limit limit' : Builders) {node : Node}

/-- The builders to the depth of a document build classes and types in the same way, whatever they
would do below it and whatever the state is that they begin from. -/
theorem buildersOver_depthBound (within : source.root.Within node) :
    (∀ fallback referencing,
      (buildersOver source limit (depthBound source.root.value)).classFor node fallback
          referencing =
        (buildersOver source limit' (depthBound source.root.value)).classFor node fallback
          referencing) ∧
      ∀ nameHint owner,
        (buildersOver source limit (depthBound source.root.value)).typeFor node nameHint owner =
          (buildersOver source limit' (depthBound source.root.value)).typeFor node nameHint
            owner := by
  have agree := buildersOver_agree source limit limit' (depthBound source.root.value)
    source.root.value.size
  have enough := depthFor_le source.root (Nat.le_refl _)
  have size := within.size_le
  constructor
  · intro fallback referencing
    funext s
    have deep := enough s.inProgress
    exact ((agree s.inProgress).1 within (by omega) fallback referencing s
      ⟨s.unbegun_le source.root, rfl⟩).1
  · intro nameHint owner
    funext s
    have deep := enough s.inProgress
    exact ((agree s.inProgress).2 within (by omega) nameHint owner s
      ⟨s.unbegun_le source.root, rfl⟩).1

/-- What the builders of a document do does not depend on what would happen below their depth. -/
theorem Source.builders_eq_buildersOver (within : source.root.Within node) :
    (∀ fallback referencing, source.builders.classFor node fallback referencing =
      (buildersOver source limit (depthBound source.root.value)).classFor node fallback
        referencing) ∧
      ∀ nameHint owner, source.builders.typeFor node nameHint owner =
        (buildersOver source limit (depthBound source.root.value)).typeFor node nameHint owner := by
  unfold Source.builders
  rw [SchemaClasses.builders_eq_buildersOver]
  exact buildersOver_depthBound source exhaustedBuilders limit within

/-- The builders of a document satisfy the recursion without a bound. -/
theorem Source.builders_unfold (within : source.root.Within node) :
    (∀ fallback referencing, source.builders.classFor node fallback referencing =
      buildClass source source.builders node fallback referencing) ∧
      ∀ nameHint owner, source.builders.typeFor node nameHint owner =
        buildType source source.builders node nameHint owner := by
  have deeper := Source.builders_eq_buildersOver source
    (buildersOver source exhaustedBuilders 1) within
  rw [← buildersOver_add, ← SchemaClasses.builders_eq_buildersOver] at deeper
  exact deeper

end

/-- Building terminates. Whatever `limit` would do below the depth that is computed from the
document, a run never gets there: not when it builds the class of the root, nor when it builds the
class of a registered member from whatever state. Its builders are those of the recursion without a
bound, and each chain of references that they follow comes to an end. -/
theorem Source.build_terminates (source : Source) (limit : Builders) :
    (∀ name?, buildRoot source source.root name? = do
      let name ← registerRoot source.root name?
      (buildersOver source limit (depthBound source.root.value)).classFor source.root name none) ∧
    (∀ pointer include? entries s registered s',
      definitions source.root pointer include? = .ok entries →
      registerDefinitions entries s = .ok registered s' →
      ∀ entry ∈ registered, buildDefinition source entry =
        (buildersOver source limit (depthBound source.root.value)).classFor entry.node entry.name
          none) ∧
    ∀ node, source.root.Within node →
      (∀ fallback referencing, source.builders.classFor node fallback referencing =
        buildClass source source.builders node fallback referencing) ∧
      (∀ nameHint owner, source.builders.typeFor node nameHint owner =
        buildType source source.builders node nameHint owner) ∧
      (∀ fuel, source.root.value.size + 2 ≤ fuel →
        followFrom source.root fuel "" [] node = follow source.root node) ∧
      ∀ failure, follow source.root node = .error failure → failure.isExhausted = false := by
  refine ⟨fun name? => ?_, fun _ _ entries s registered s' found register entry mem => ?_,
    fun node within => ?_⟩
  · unfold buildRoot
    exact bind_congr fun name => (source.builders_eq_buildersOver limit .root).1 name none
  · have inside := Node.Within.of_definitions found
      ((sublist_of_registerDefinitions register).subset mem)
    exact (source.builders_eq_buildersOver limit inside).1 entry.name none
  · obtain ⟨classes, types⟩ := source.builders_unfold within
    obtain ⟨more, proper⟩ := follow_terminates within
    exact ⟨classes, types, more, proper⟩

end SchemaClasses
