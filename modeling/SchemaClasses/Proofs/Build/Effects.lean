import SchemaClasses.Build.Run
import SchemaClasses.Proofs.Model.Graph
import SchemaClasses.Proofs.Outcome
import SchemaClasses.Proofs.Value.DistinctKeys

/-!
# The effects of the elementary steps

What the steps that touch the state of a build make of it, as functions on states.

## Main definitions

* `BuildState.declare`: the state after a class has been created.
* `BuildState.change`: the state after a class has been changed.
* `BuildState.placement`: the name of a new class, where it is declared and the names taken then.
* `BuildState.begin`: the state after a class has been placed and created.
-/

namespace SchemaClasses

namespace BuildState

/-- The state after a class has been created and entered under its path. -/
def declare (state : BuildState) (model : ClassModel) : BuildState :=
  let id := state.graph.size
  let graph := state.graph.add model
  let nestIn (outer : ClassModel) : ClassModel := { outer with nested := outer.nested ++ [id] }
  { state with
    classOf := setMember model.path id state.classOf
    graph := model.enclosing.elim graph fun outer => graph.update outer nestIn
    topLevel := state.topLevel ++ if model.enclosing.isNone then [id] else [] }

def change (state : BuildState) (id : ClassId) (f : ClassModel → ClassModel) : BuildState :=
  { state with graph := state.graph.update id f }

def noteOwner (state : BuildState) (path : String) (referencing : Option ClassId) : BuildState :=
  match state.pinned.lookup path, referencing with
  | none, some referrer =>
    let owner := state.ownerOf (state.graph.topLevel referrer)
    { state with owners := setMember path owner state.owners }
  | _, _ => state

/-- The name of a new class, the class it is declared in, and the names taken afterwards. -/
def placement (state : BuildState) (node : Node) (fallback : String)
    (referencing : Option ClassId) : Except Failure (String × Option ClassId × ReservedNames) :=
  match state.pinned.lookup node.path with
  | some name => .ok (name, none, state.reserved)
  | none => do
    let name ← className (some node) fallback
    let (enclosing, reserved) ← place state.graph state.reserved name node.path referencing
    return (name, enclosing, reserved)

def begin (state : BuildState) (reserved : ReservedNames) (model : ClassModel)
    (referencing : Option ClassId) : BuildState :=
  let state := { state with reserved }.declare model
  if model.enclosing.isNone then state.noteOwner model.path referencing else state

end BuildState

namespace BuildState

variable (state : BuildState)

@[simp] theorem declare_classOf (model : ClassModel) :
    (state.declare model).classOf = setMember model.path state.graph.size state.classOf := rfl

theorem declare_topLevel (model : ClassModel) : (state.declare model).topLevel =
    state.topLevel ++ if model.enclosing.isNone then [state.graph.size] else [] := rfl

@[simp] theorem declare_size (model : ClassModel) :
    (state.declare model).graph.size = state.graph.size + 1 := by
  unfold declare
  cases model.enclosing <;> simp

/-- A class gets the number that the graph had as its size. -/
theorem declare_get_size {model : ClassModel}
    (inside : ∀ outer ∈ model.enclosing, outer < state.graph.size) :
    (state.declare model).graph.get state.graph.size = model := by
  unfold declare
  cases henclosing : model.enclosing with
  | none => exact ClassGraph.get_add_size _ _
  | some outer =>
    have ne : state.graph.size ≠ outer := Nat.ne_of_gt (inside outer henclosing)
    simp [ClassGraph.get_update_of_ne ne, ClassGraph.get_add_size]

/-- Creating a class changes no other class but the one around it, which gets one more class nested
in it. -/
theorem declare_get_of_ne {model : ClassModel}
    (inside : ∀ outer ∈ model.enclosing, outer < state.graph.size) {id : ClassId}
    (ne : id ≠ state.graph.size) :
    (state.declare model).graph.get id =
      { state.graph.get id with
        nested := (state.graph.get id).nested ++
          if model.enclosing = some id then [state.graph.size] else [] } := by
  have old : (state.graph.add model).get id = state.graph.get id := by
    rcases Nat.lt_or_gt_of_ne ne with lt | gt
    · exact ClassGraph.get_add_of_lt lt model
    · have le : (state.graph.add model).size ≤ id := by simpa using Nat.succ_le_of_lt gt
      rw [ClassGraph.get_of_size_le (Nat.le_of_lt gt), ClassGraph.get_of_size_le le]
  unfold declare
  cases henclosing : model.enclosing with
  | none => simp [old]
  | some outer =>
    by_cases eq : id = outer
    · subst eq
      have lt : id < (state.graph.add model).size := by
        simpa using Nat.lt_succ_of_lt (inside id henclosing)
      simp [ClassGraph.get_update_self lt, old]
    · simp [ClassGraph.get_update_of_ne eq, old, Ne.symm eq]

/-- A class that exists after another one has been created is the new one, or it existed before. -/
theorem lt_size_of_lt_declare_size {model : ClassModel} {id : ClassId}
    (lt : id < (state.declare model).graph.size) (ne : id ≠ state.graph.size) :
    id < state.graph.size := by
  rw [declare_size] at lt
  exact Nat.lt_of_le_of_ne (Nat.le_of_lt_succ lt) ne

theorem change_get_self {id : ClassId} (h : id < state.graph.size)
    (f : ClassModel → ClassModel) : (state.change id f).graph.get id = f (state.graph.get id) :=
  ClassGraph.get_update_self h f

theorem change_get_of_ne {id other : ClassId} (h : other ≠ id) (f : ClassModel → ClassModel) :
    (state.change id f).graph.get other = state.graph.get other :=
  ClassGraph.get_update_of_ne h f

@[simp] theorem change_size (id : ClassId) (f : ClassModel → ClassModel) :
    (state.change id f).graph.size = state.graph.size :=
  ClassGraph.size_update _ _ _

theorem noteOwner_eq (path : String) (referencing : Option ClassId) :
    ∃ owners, state.noteOwner path referencing = { state with owners } := by
  unfold noteOwner
  split
  · exact ⟨_, rfl⟩
  · exact ⟨state.owners, rfl⟩

/-- Apart from the owners, beginning a class is creating it when its name has been taken. -/
theorem begin_eq (reserved : ReservedNames) (model : ClassModel) (referencing : Option ClassId) :
    ∃ owners, state.begin reserved model referencing =
      { { state with reserved }.declare model with owners } := by
  unfold begin
  split
  · exact noteOwner_eq _ _ _
  · exact ⟨state.owners, rfl⟩

section

variable (reserved : ReservedNames) (model : ClassModel) (referencing : Option ClassId)

@[simp] theorem begin_graph :
    (state.begin reserved model referencing).graph = (state.declare model).graph := by
  obtain ⟨owners, eq⟩ := state.begin_eq reserved model referencing
  rw [eq]
  rfl

@[simp] theorem begin_classOf : (state.begin reserved model referencing).classOf =
    setMember model.path state.graph.size state.classOf := by
  obtain ⟨owners, eq⟩ := state.begin_eq reserved model referencing
  rw [eq]
  rfl

@[simp] theorem begin_pinned :
    (state.begin reserved model referencing).pinned = state.pinned := by
  obtain ⟨owners, eq⟩ := state.begin_eq reserved model referencing
  rw [eq]
  rfl

@[simp] theorem begin_inProgress :
    (state.begin reserved model referencing).inProgress = state.inProgress := by
  obtain ⟨owners, eq⟩ := state.begin_eq reserved model referencing
  rw [eq]
  rfl

end

end BuildState

def blankClass (source : Source) (node : Node) (name : String) (enclosing : Option ClassId) :
    ClassModel :=
  { name, package := source.package, enclosing, path := node.path }

namespace Build

variable {α β : Type}

theorem bind_apply (step : Build α) (next : α → Build β) (s : BuildState) :
    (step >>= next) s = match step s with
      | .ok x s' => next x s'
      | .error failure s' => .error failure s' := by
  change EStateM.bind step next s = _
  unfold EStateM.bind
  cases step s <;> rfl

theorem pure_apply (x : α) (s : BuildState) : (pure x : Build α) s = .ok x s := rfl

theorem get_apply (s : BuildState) : (get : Build BuildState) s = .ok s s := rfl

theorem set_apply (s s' : BuildState) : (set s' : Build PUnit) s = .ok () s' := rfl

theorem ofExcept_apply (e : Except Failure α) (s : BuildState) :
    Build.ofExcept e s = match e with
      | .ok x => .ok x s
      | .error failure => .error failure s := by
  cases e <;> rfl

/-- A step after another one succeeds when both do. -/
theorem bind_eq_ok_iff {step : Build α} {next : α → Build β} {s s' : BuildState} {y : β} :
    (step >>= next) s = .ok y s' ↔ ∃ x t, step s = .ok x t ∧ next x t = .ok y s' := by
  rw [bind_apply]
  cases step s <;> simp

/-- A step after another one fails when the first one does, or the second. -/
theorem bind_eq_error_iff {step : Build α} {next : α → Build β} {s s' : BuildState}
    {failure : Failure} : (step >>= next) s = .error failure s' ↔
      step s = .error failure s' ∨ ∃ x t, step s = .ok x t ∧ next x t = .error failure s' := by
  rw [bind_apply]
  cases step s <;> simp

/-- A build from the beginning whose last state passes a test has succeeded. -/
theorem exists_of_any {step : Build α} {p : BuildState → Bool}
    (h : ((step >>= fun _ => get).run' {}).any p) : ∃ x s, step {} = .ok x s ∧ p s := by
  unfold EStateM.run' EStateM.run at h
  rw [bind_apply] at h
  cases run : step {} with
  | ok x s =>
    rw [run] at h
    exact ⟨x, s, rfl, h⟩
  | error failure s =>
    rw [run] at h
    cases h

theorem ofExcept_eq_ok_iff {e : Except Failure α} {s s' : BuildState} {x : α} :
    Build.ofExcept e s = .ok x s' ↔ e = .ok x ∧ s = s' := by
  rw [ofExcept_apply]
  cases e <;> simp

end Build

theorem createClass_apply (model : ClassModel) (s : BuildState) :
    createClass model s = .ok s.graph.size (s.declare model) := by
  obtain ⟨name, package, enclosing, kind, properties, base, nested, enums, path, built⟩ := model
  cases enclosing with
  | none => rfl
  | some outer =>
    have same : s.topLevel ++ [] = s.topLevel := List.append_nil _
    simp only [BuildState.declare, Option.isNone_some, Bool.false_eq_true, if_false, same]
    rfl

theorem createClass_bind_apply {α : Type} (model : ClassModel) (next : ClassId → Build α)
    (s : BuildState) : (createClass model >>= next) s = next s.graph.size (s.declare model) := by
  rw [Build.bind_apply, createClass_apply]

/-- Placing a class changes nothing but the names that are taken, and nothing when it fails. -/
theorem placeClass_apply (node : Node) (fallback : String) (referencing : Option ClassId)
    (s : BuildState) :
    placeClass node fallback referencing s = match s.placement node fallback referencing with
      | .ok (name, enclosing, reserved) => .ok (name, enclosing) { s with reserved }
      | .error failure => .error failure s := by
  unfold placeClass BuildState.placement
  rw [Build.bind_apply, Build.get_apply]
  simp only
  cases s.pinned.lookup node.path with
  | some name => rfl
  | none =>
    simp only [Build.bind_apply, Build.get_apply, Build.set_apply, Build.pure_apply,
      Build.ofExcept_apply]
    cases className (some node) fallback with
    | error failure => rfl
    | ok name =>
      simp only [bind, Except.bind]
      cases place s.graph s.reserved name node.path referencing <;> rfl

/-- The class of a schema that has one. -/
theorem buildClass_cached {source : Source} {builders : Builders} {node : Node}
    {fallback : String} {referencing : Option ClassId} {s : BuildState} {id : ClassId}
    (found : s.classOf.lookup node.path = some id) :
    buildClass source builders node fallback referencing s = .ok id s := by
  unfold buildClass
  rw [Build.bind_apply, Build.get_apply]
  simp only [found]
  rfl

/-- The class of a schema that has none is placed and created, then filled, and then complete. -/
theorem buildClass_fresh {source : Source} {builders : Builders} {node : Node}
    {fallback : String} {referencing : Option ClassId} {s : BuildState}
    (fresh : s.classOf.lookup node.path = none) :
    buildClass source builders node fallback referencing s =
      match s.placement node fallback referencing with
      | .error failure => .error failure s
      | .ok (name, enclosing, reserved) =>
        (do
          fillClass source builders s.graph.size node
          Build.updateClass s.graph.size fun model => { model with built := true }
          return s.graph.size : Build ClassId)
        (s.begin reserved (blankClass source node name enclosing) referencing) := by
  unfold buildClass
  rw [Build.bind_apply, Build.get_apply]
  simp only [fresh]
  rw [Build.bind_apply, placeClass_apply]
  cases s.placement node fallback referencing with
  | error failure => rfl
  | ok placed =>
    obtain ⟨name, enclosing, reserved⟩ := placed
    simp only
    rw [Build.bind_apply, createClass_apply]
    cases enclosing with
    | none => rfl
    | some outer => rfl

def Definition.hasClass (entry : Definition) : Bool :=
  (isClassSchema entry.node true).toOption == some true

/-- The registered members are those members of the container that have classes, in their order. -/
theorem registerDefinitions_eq_filter {entries registered : List Definition} {s s' : BuildState}
    (h : registerDefinitions entries s = .ok registered s') :
    registered = entries.filter (·.hasClass) := by
  induction entries generalizing registered s with
  | nil =>
    cases h
    rfl
  | cons entry rest ih =>
    unfold registerDefinitions at h
    obtain ⟨isClass, t, found, h⟩ := Build.bind_eq_ok_iff.1 h
    obtain ⟨hclass, rfl⟩ := Build.ofExcept_eq_ok_iff.1 found
    have hasClass : entry.hasClass = isClass := by
      rw [Definition.hasClass, hclass]
      cases isClass <;> rfl
    rw [List.filter_cons, hasClass]
    split at h
    · rename_i yes
      obtain ⟨name, t₁, -, h⟩ := Build.bind_eq_ok_iff.1 h
      obtain ⟨_, t₂, -, h⟩ := Build.bind_eq_ok_iff.1 h
      obtain ⟨others, t₃, hothers, h⟩ := Build.bind_eq_ok_iff.1 h
      cases h
      rw [if_pos yes, ih hothers]
    · rename_i no
      rw [if_neg no, ih h]

theorem sublist_of_registerDefinitions {entries registered : List Definition} {s s' : BuildState}
    (h : registerDefinitions entries s = .ok registered s') : registered.Sublist entries := by
  rw [registerDefinitions_eq_filter h]
  exact List.filter_sublist

end SchemaClasses
