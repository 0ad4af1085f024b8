import SchemaClasses.Proofs.Build.Causes
import SchemaClasses.Proofs.Build.Keywords

/-!
# What the classes of a build say

The types, constraints and defaults of the properties in a class graph are those of schemas of the
document, and the classes that they name are in the graph. A build keeps this; when it fails,
something in the document accounts for the failure.

## Main definitions

* `TypeRef.Described`, `Property.Described`: types and properties of schemas of a document.
* `Stage`: the classes and the targets that a build is about to build.
* `BuildState.Describes`: a state in which all properties are so, at a stage of the build.
* `Build.Accounted`: a step that keeps such a state, and for whose failures the document accounts.
-/

namespace SchemaClasses

/-! ## Properties -/

/-- A validation keyword of a schema of a document that applies to values of a type. -/
def Constraint.IsFor (root : Node) (type : TypeRef) (constraint : Constraint) : Prop :=
  ∃ node, root.Within node ∧ constraint.Stems node type

def Constraint.IsKnown (root : Node) (type : TypeRef) (constraint : Constraint) : Prop :=
  constraint = ⟨.required, .null⟩ ∨ constraint.IsFor root type

/-- A type of a schema of a document, in a graph with a number of classes. -/
inductive TypeRef.Described (root : Node) (size : Nat) : TypeRef → Prop
  | primitive (kind : PrimitiveKind) (format : Value) : Described root size (.primitive kind format)
  | ofClass {id : ClassId} (inside : id < size) : Described root size (.ofClass id)
  | sequence {item : TypeRef} {constraints : List Constraint} (described : Described root size item)
      (keywords : ∀ constraint ∈ constraints, constraint.IsFor root item) :
      Described root size (.sequence item constraints)
  | map {value : TypeRef} (described : Described root size value) : Described root size (.map value)
  | enum {definition : EnumDef} (inside : definition.owner < size) :
      Described root size (.enum definition)

structure Property.Described (root : Node) (size : Nat) (property : Property) : Prop where
  type : property.type.Described root size
  constraints : ∀ constraint ∈ property.constraints, constraint.IsKnown root property.type
  default : ∀ value ∈ property.default?, isDefaultFor property.type value ∧
    ∃ node, root.Within node ∧ node.valueOf "default" = value

section

variable {root : Node} {size size' : Nat}

theorem TypeRef.Described.mono {type : TypeRef} (h : type.Described root size)
    (le : size ≤ size') : type.Described root size' := by
  induction h with
  | primitive kind format => exact .primitive kind format
  | ofClass inside => exact .ofClass (Nat.lt_of_lt_of_le inside le)
  | sequence _ keywords ih => exact .sequence ih keywords
  | map _ ih => exact .map ih
  | enum inside => exact .enum (Nat.lt_of_lt_of_le inside le)

theorem Property.Described.mono {property : Property} (h : property.Described root size)
    (le : size ≤ size') : property.Described root size' where
  type := h.type.mono le
  constraints := h.constraints
  default := h.default

end

/-! ## States -/

/-- How far a build has come on the way to a schema: the paths of classes that have been begun, and
the pointers whose targets are in progress. -/
structure Stage where
  begun : List String := []
  entered : List String := []

def Stage.begin (stage : Stage) (path : String) : Stage :=
  { stage with begun := path :: stage.begun }

def Stage.enter (stage : Stage) (pointer : String) : Stage :=
  { stage with entered := pointer :: stage.entered }

/-- A state in which the properties of all classes are those of schemas of a document, at a stage of
the build. -/
structure BuildState.Describes (root : Node) (stage : Stage) (s : BuildState) : Prop where
  inProgress : s.inProgress = stage.entered
  begun : ∀ path ∈ stage.begun, (s.classOf.lookup path).isSome
  classOf : ∀ {path id}, s.classOf.lookup path = some id → id < s.graph.size
  enums : ∀ id, ∀ definition ∈ (s.graph.get id).enums, definition.owner < s.graph.size
  properties : ∀ id, ∀ property ∈ (s.graph.get id).properties,
    property.Described root s.graph.size

/-- Updating a class changes the class under its number and no other. -/
theorem ClassGraph.get_update_cases (graph : ClassGraph) (id other : ClassId)
    (f : ClassModel → ClassModel) : (graph.update id f).get other = graph.get other ∨
      (other = id ∧ (graph.update id f).get other = f (graph.get other)) := by
  by_cases same : other = id
  · subst same
    by_cases inside : other < graph.size
    · exact .inr ⟨rfl, ClassGraph.get_update_self inside f⟩
    · left
      have outside : graph.size ≤ other := by simpa using inside
      have outside' : (graph.update other f).size ≤ other := by simpa using inside
      rw [ClassGraph.get_of_size_le outside, ClassGraph.get_of_size_le outside']
  · exact .inl (ClassGraph.get_update_of_ne same f)

theorem ClassGraph.get_add_cases (graph : ClassGraph) (model : ClassModel) (id : ClassId) :
    (graph.add model).get id = graph.get id ∨ (graph.add model).get id = model := by
  rcases Nat.lt_trichotomy id graph.size with lt | rfl | gt
  · exact .inl (ClassGraph.get_add_of_lt lt model)
  · exact .inr (ClassGraph.get_add_size graph model)
  · left
    have outside : (graph.add model).size ≤ id := by simpa using Nat.succ_le_of_lt gt
    rw [ClassGraph.get_of_size_le (Nat.le_of_lt gt), ClassGraph.get_of_size_le outside]

/-- After a class has been created every class has what it had, but for those nested in it, or it is
the new one. -/
theorem BuildState.declare_get_cases (s : BuildState) (model : ClassModel) (id : ClassId) :
    ∃ nested, (s.declare model).graph.get id = { s.graph.get id with nested } ∨
      (s.declare model).graph.get id = { model with nested } := by
  have added : ∃ nested, (s.declare model).graph.get id =
      { (s.graph.add model).get id with nested } := by
    unfold BuildState.declare
    cases model.enclosing with
    | none => exact ⟨_, rfl⟩
    | some outer =>
      rcases (s.graph.add model).get_update_cases outer id fun outer =>
        { outer with nested := outer.nested ++ [s.graph.size] } with same | ⟨-, nests⟩
      · exact ⟨_, same⟩
      · exact ⟨_, nests⟩
  obtain ⟨nested, eq⟩ := added
  rcases s.graph.get_add_cases model id with old | new
  · exact ⟨nested, .inl (by rw [eq, old])⟩
  · exact ⟨nested, .inr (by rw [eq, new])⟩

namespace BuildState.Describes

variable {root : Node} {stage : Stage} {s s' : BuildState}

theorem of_empty (root : Node) : BuildState.Describes root {} {} where
  inProgress := rfl
  begun _ mem := by cases mem
  classOf h := by cases h
  enums _ _ mem := by cases mem
  properties _ _ mem := by cases mem

/-- Names, owners and what stands at the top level do not matter. -/
theorem of_eq (h : s.Describes root stage) (inProgress : s'.inProgress = s.inProgress)
    (classOf : s'.classOf = s.classOf) (graph : s'.graph = s.graph) :
    s'.Describes root stage where
  inProgress := inProgress.trans h.inProgress
  begun := by
    rw [classOf]
    exact h.begun
  classOf found := by
    rw [classOf] at found
    rw [graph]
    exact h.classOf found
  enums := by
    rw [graph]
    exact h.enums
  properties := by
    rw [graph]
    exact h.properties

/-- What is in progress does not matter for what the classes say. -/
theorem goOn {entered : List String} (h : s.Describes root stage) (inProgress : List String)
    (same : inProgress = entered) :
    BuildState.Describes root { stage with entered } { s with inProgress } where
  inProgress := same
  begun := h.begun
  classOf := h.classOf
  enums := h.enums
  properties := h.properties

theorem enter (h : s.Describes root stage) (pointer : String) :
    BuildState.Describes root (stage.enter pointer)
      { s with inProgress := pointer :: s.inProgress } :=
  h.goOn _ (congrArg (pointer :: ·) h.inProgress)

theorem leave {pointer : String} (h : s.Describes root (stage.enter pointer)) :
    BuildState.Describes root stage { s with inProgress := s.inProgress.erase pointer } :=
  h.goOn _ (by simp [h.inProgress, Stage.enter])

theorem begin {path : String} (h : s.Describes root stage)
    (found : (s.classOf.lookup path).isSome) : s.Describes root (stage.begin path) :=
  { h with begun := fun _ mem => (List.mem_cons.1 mem).elim (· ▸ found) (h.begun _) }

theorem finish {path : String} (h : s.Describes root (stage.begin path)) :
    s.Describes root stage :=
  { h with begun := fun _ mem => h.begun _ (List.mem_cons_of_mem _ mem) }

/-- A class without properties and enums is declared; its path has been begun. -/
theorem declare (h : s.Describes root stage) {model : ClassModel} (properties : model.properties = [])
    (enums : model.enums = []) : (s.declare model).Describes root stage where
  inProgress := h.inProgress
  begun path mem := by
    rw [BuildState.declare_classOf, lookup_setMember]
    split
    · rfl
    · exact h.begun path mem
  classOf {path id} found := by
    rw [BuildState.declare_classOf, lookup_setMember] at found
    rw [BuildState.declare_size]
    split at found
    · cases found
      exact Nat.lt_succ_self _
    · exact Nat.lt_succ_of_lt (h.classOf found)
  enums id definition mem := by
    rw [BuildState.declare_size]
    obtain ⟨nested, old | new⟩ := s.declare_get_cases model id
    · rw [old] at mem
      exact Nat.lt_succ_of_lt (h.enums id definition mem)
    · simp [new, enums] at mem
  properties id property mem := by
    rw [BuildState.declare_size]
    obtain ⟨nested, old | new⟩ := s.declare_get_cases model id
    · rw [old] at mem
      exact (h.properties id property mem).mono (Nat.le_succ _)
    · simp [new, properties] at mem

/-- A class is begun, which adds its path to the stage. -/
theorem beginClass (h : s.Describes root stage) (model : ClassModel)
    (properties : model.properties = []) (enums : model.enums = []) (reserved : ReservedNames)
    (referencing : Option ClassId) :
    (s.begin reserved model referencing).Describes root (stage.begin model.path) := by
  obtain ⟨owners, eq⟩ := s.begin_eq reserved model referencing
  have taken : BuildState.Describes root stage { s with reserved } := h.of_eq rfl rfl rfl
  have declared : BuildState.Describes root stage (s.begin reserved model referencing) := by
    rw [eq]
    exact (taken.declare properties enums).of_eq rfl rfl rfl
  apply declared.begin
  rw [BuildState.begin_classOf, lookup_setMember, if_pos rfl]
  rfl

/-- Changing a class keeps what all others have. -/
theorem change (h : s.Describes root stage) {id : ClassId} {f : ClassModel → ClassModel}
    (enums : ∀ definition ∈ (f (s.graph.get id)).enums, definition.owner < s.graph.size)
    (properties : ∀ property ∈ (f (s.graph.get id)).properties,
      property.Described root s.graph.size) : (s.change id f).Describes root stage where
  inProgress := h.inProgress
  begun := h.begun
  classOf found := by
    rw [BuildState.change_size]
    exact h.classOf found
  enums other := by
    rw [BuildState.change_size]
    rcases s.graph.get_update_cases id other f with old | ⟨rfl, new⟩
    · simp only [BuildState.change, old]
      exact h.enums other
    · simp only [BuildState.change, new]
      exact enums
  properties other := by
    rw [BuildState.change_size]
    rcases s.graph.get_update_cases id other f with old | ⟨rfl, new⟩
    · simp only [BuildState.change, old]
      exact h.properties other
    · simp only [BuildState.change, new]
      exact properties

end BuildState.Describes

/-! ## Steps -/

namespace Build

variable {α β : Type}

/-- A step that keeps the properties of all classes those of schemas of a document. When it succeeds,
its result satisfies `Q` in a graph of the size that there is then; when it fails, the document
accounts for that. -/
def Accounted (root : Node) (starts : List Node) (stage : Stage) (s : BuildState) (step : Build α)
    (Q : α → Nat → Prop) : Prop :=
  match step s with
  | .ok x s' => s'.Describes root stage ∧ s.graph.size ≤ s'.graph.size ∧ Q x s'.graph.size
  | .error failure _ => root.BuildCauses starts failure

namespace Accounted

variable {root : Node} {starts : List Node} {stage : Stage} {s s' : BuildState} {step : Build α}
  {next : α → Build β} {P : α → Nat → Prop} {Q : β → Nat → Prop}

theorem of_ok (h : Accounted root starts stage s step P) {x : α} (run : step s = .ok x s') :
    s'.Describes root stage ∧ s.graph.size ≤ s'.graph.size ∧ P x s'.graph.size := by
  unfold Accounted at h
  rwa [run] at h

theorem of_error (h : Accounted root starts stage s step P) {failure : Failure}
    (run : step s = .error failure s') : root.BuildCauses starts failure := by
  unfold Accounted at h
  rwa [run] at h

theorem pure (describes : s.Describes root stage) {x : α} (h : P x s.graph.size) :
    Accounted root starts stage s (Pure.pure x) P :=
  ⟨describes, Nat.le_refl _, h⟩

theorem throw {failure : Failure} (cause : root.BuildCauses starts failure) :
    Accounted root starts stage s (throw failure : Build α) P := cause

theorem unsupported (path construct : String) :
    Accounted root starts stage s (Build.unsupported path construct : Build α) P :=
  .throw (.ofCauses (.unsupported path construct))

/-- A step that succeeds and keeps the count of classes. -/
theorem of_run {x : α} (run : step s = .ok x s') (describes : s'.Describes root stage)
    (size : s'.graph.size = s.graph.size) (post : P x s.graph.size) :
    Accounted root starts stage s step P := by
  unfold Accounted
  rw [run]
  exact ⟨describes, Nat.le_of_eq size.symm, size ▸ post⟩

/-- A step that goes on as another one does from a later state. -/
theorem of_eq {step' : Build α} (run : step s = step' s') (le : s.graph.size ≤ s'.graph.size)
    (h : Accounted root starts stage s' step' P) : Accounted root starts stage s step P := by
  unfold Accounted at h ⊢
  rw [run]
  cases run' : step' s' with
  | ok x t =>
    rw [run'] at h
    exact ⟨h.1, Nat.le_trans le h.2.1, h.2.2⟩
  | error failure t =>
    rwa [run'] at h

/-- A class is changed in its properties, which are those of schemas of the document. -/
theorem updateClass {id : ClassId} (describes : s.Describes root stage)
    {f : ClassModel → ClassModel} {P : Unit → Nat → Prop}
    (enums : (f (s.graph.get id)).enums = (s.graph.get id).enums)
    (properties : ∀ property ∈ (f (s.graph.get id)).properties,
      property.Described root s.graph.size) (post : P () s.graph.size) :
    Accounted root starts stage s (Build.updateClass id f) P := by
  refine .of_run rfl (describes.change ?_ properties) (s.change_size id f) post
  rw [enums]
  exact describes.enums id

/-- The rest of a step goes on from the state that its first part has left. -/
theorem bind (h : Accounted root starts stage s step P)
    (k : ∀ x s', s'.Describes root stage → s.graph.size ≤ s'.graph.size → P x s'.graph.size →
      Accounted root starts stage s' (next x) Q) : Accounted root starts stage s (step >>= next) Q := by
  unfold Accounted at h ⊢
  rw [bind_apply]
  cases run : step s with
  | error failure s' =>
    rw [run] at h
    exact h
  | ok x s' =>
    rw [run] at h
    obtain ⟨describes, le, post⟩ := h
    have rest := k x s' describes le post
    unfold Accounted at rest
    simp only
    cases run' : next x s' with
    | error failure s'' =>
      rw [run'] at rest
      exact rest
    | ok y s'' =>
      rw [run'] at rest
      exact ⟨rest.1, Nat.le_trans le rest.2.1, rest.2.2⟩

theorem ofExcept_bind_of_causes {e : Except Failure α}
    (causes : ∀ failure, e = .error failure → root.BuildCauses starts failure)
    (k : ∀ x, e = .ok x → Accounted root starts stage s (next x) Q) :
    Accounted root starts stage s (Build.ofExcept e >>= next) Q := by
  cases e with
  | ok x => exact k x rfl
  | error failure => exact .throw (causes failure rfl)

theorem ofExcept_bind {e : Except Failure α} (accounts : root.Accounts e)
    (k : ∀ x, e = .ok x → Accounted root starts stage s (next x) Q) :
    Accounted root starts stage s (Build.ofExcept e >>= next) Q :=
  ofExcept_bind_of_causes (fun failure fails => .ofCauses (accounts failure fails)) k

theorem graph_bind {next : ClassGraph → Build β} (k : Accounted root starts stage s (next s.graph) Q) :
    Accounted root starts stage s (Build.graph >>= next) Q := k

theorem get_bind {next : BuildState → Build β} (k : Accounted root starts stage s (next s) Q) :
    Accounted root starts stage s (get >>= next) Q := k

theorem set_bind {inProgress : List String} {next : PUnit → Build β}
    (k : Accounted root starts stage { s with inProgress } (next ⟨⟩) Q) :
    Accounted root starts stage s (set { s with inProgress } >>= next) Q := k

theorem mono {P' : α → Nat → Prop} (h : Accounted root starts stage s step P)
    (imp : ∀ x size, P x size → P' x size) : Accounted root starts stage s step P' := by
  unfold Accounted at h ⊢
  cases run : step s with
  | ok x s' =>
    rw [run] at h
    exact ⟨h.1, h.2.1, imp x _ h.2.2⟩
  | error failure s' =>
    rwa [run] at h

/-- What is built of a class that has been begun. -/
theorem finish {path : String} (h : Accounted root starts (stage.begin path) s step P) :
    Accounted root starts stage s step P := by
  unfold Accounted at h ⊢
  cases run : step s with
  | ok x s' =>
    rw [run] at h
    exact ⟨h.1.finish, h.2⟩
  | error failure s' =>
    rwa [run] at h

/-- Building the target of a pointer while it is in progress. -/
theorem releasing {pointer : String} (h : Accounted root starts (stage.enter pointer) s step P) :
    Accounted root starts stage s (Build.releasing pointer step) P := by
  unfold Accounted at h ⊢
  unfold Build.releasing
  cases run : step s with
  | error failure s' =>
    rwa [run] at h
  | ok x s' =>
    rw [run] at h
    exact ⟨h.1.leave, h.2⟩

/-- What holds of a result goes on to hold while the graph grows. -/
theorem mapM {f : α → Build β} {R : β → Nat → Prop}
    (mono : ∀ b size size', size ≤ size' → R b size → R b size') {as : List α}
    (describes : s.Describes root stage)
    (h : ∀ a ∈ as, ∀ s', s'.Describes root stage → s.graph.size ≤ s'.graph.size →
      Accounted root starts stage s' (f a) R) :
    Accounted root starts stage s (as.mapM f) fun bs size => ∀ b ∈ bs, R b size := by
  induction as generalizing s with
  | nil =>
    rw [List.mapM_nil]
    apply pure describes
    intro b mem
    cases mem
  | cons a rest ih =>
    rw [List.mapM_cons]
    apply bind (h a List.mem_cons_self s describes (Nat.le_refl _))
    intro b s₁ describes₁ le₁ first
    have others := ih describes₁ fun a' mem s' describes' le =>
      h a' (List.mem_cons_of_mem a mem) s' describes' (Nat.le_trans le₁ le)
    apply bind others
    intro bs s₂ describes₂ le₂ others
    apply pure describes₂
    intro b' mem
    rcases List.mem_cons.1 mem with rfl | mem
    · exact mono b' _ _ le₂ first
    · exact others b' mem

/-- As with `mapM`, when there are no results. -/
theorem forM {f : α → Build Unit} {as : List α} (describes : s.Describes root stage)
    (h : ∀ a ∈ as, ∀ s', s'.Describes root stage → s.graph.size ≤ s'.graph.size →
      Accounted root starts stage s' (f a) fun _ _ => True) :
    Accounted root starts stage s (as.forM f) fun _ _ => True := by
  induction as generalizing s with
  | nil => exact .pure describes trivial
  | cons a rest ih =>
    unfold List.forM
    apply bind (h a List.mem_cons_self s describes (Nat.le_refl _))
    intro _ s₁ describes₁ le₁ _
    exact ih describes₁ fun a' mem s' describes' le =>
      h a' (List.mem_cons_of_mem a mem) s' describes' (Nat.le_trans le₁ le)

end Accounted

end Build

end SchemaClasses
