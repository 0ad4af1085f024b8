import SchemaClasses.Proofs.Build.Names

/-!
# The top level

The classes at the top level stand in the order of their creation. Each belongs to the root or to a
member of the container: one whose name is pinned belongs to itself, and any other one to that from
which it was reached first. All classes and enums have names in Pascal case.

## Main definitions

* `BuildState.IsPinned`: the classes of the root and of the members of the container.
* `BuildState.Outermost`: the order and the owners of the classes at the top level, and the names of
  all classes and enums.

## Main statements

* `BuildState.Outermost.isPinned_ownerOf`: every class at the top level belongs to the root or to a
  member.
* `Step.outermost`: every step keeps the top level in order.
-/

namespace SchemaClasses

namespace BuildState

variable {s s' : BuildState}

def IsPinned (s : BuildState) (id : ClassId) : Prop :=
  id < s.graph.size ∧ (s.pinned.lookup (s.graph.get id).path).isSome

/-- The order and the owners of the classes at the top level, and the names of all classes and
enums. -/
structure Outermost (s : BuildState) : Prop where
  order : s.topLevel.Pairwise (· < ·)
  /-- No owner is noted for a schema whose name is pinned. -/
  own : ∀ {path name}, s.pinned.lookup path = some name → s.owners.lookup path = none
  owner : ∀ {id}, id < s.graph.size → (s.graph.get id).enclosing = none →
    s.pinned.lookup (s.graph.get id).path = none →
    ∃ owner, s.owners.lookup (s.graph.get id).path = some owner ∧ s.IsPinned owner
  pinnedName : ∀ {path name}, s.pinned.lookup path = some name → IsClassName name
  name : ∀ {id}, id < s.graph.size → IsClassName (s.graph.get id).name
  enum : ∀ {id definition}, definition ∈ (s.graph.get id).enums →
    definition.owner = id ∧ IsClassName definition.name

namespace Outermost

/-- Without classes there is nothing to order. -/
theorem of_empty (graph : s.graph.size = 0) (topLevel : s.topLevel = [])
    (pinned : s.pinned = []) : s.Outermost := by
  refine ⟨?_, fun found => ?_, fun inside => ?_, fun found => ?_, fun inside => ?_,
    fun {id definition} mem => ?_⟩
  · rw [topLevel]
    exact .nil
  · rw [pinned] at found
    cases found
  · omega
  · rw [pinned] at found
    cases found
  · omega
  · rw [ClassGraph.get_of_size_le (by omega)] at mem
    cases mem

/-- The class of the root or of a member belongs to itself. -/
theorem ownerOf_eq_self (h : s.Outermost) {id : ClassId} (isPinned : s.IsPinned id) :
    s.ownerOf id = id := by
  obtain ⟨name, found⟩ := Option.isSome_iff_exists.1 isPinned.2
  unfold ownerOf
  rw [h.own found]
  rfl

/-- Every class at the top level belongs to the root or to a member. -/
theorem isPinned_ownerOf (h : s.Outermost) {id : ClassId} (inside : id < s.graph.size)
    (top : (s.graph.get id).enclosing = none) : s.IsPinned (s.ownerOf id) := by
  cases found : s.pinned.lookup (s.graph.get id).path with
  | some name =>
    have isPinned : s.IsPinned id := ⟨inside, Option.isSome_of_eq_some found⟩
    rwa [h.ownerOf_eq_self isPinned]
  | none =>
    obtain ⟨owner, noted, isPinned⟩ := h.owner inside top found
    unfold ownerOf
    rwa [noted]

/-- The order and the owners stay when a step keeps the shape of the state. -/
theorem of_sameShape (h : s.Outermost) (same : SameShape s s') (owners : s'.owners = s.owners)
    (enums : ∀ {id definition}, definition ∈ (s'.graph.get id).enums →
      definition ∈ (s.graph.get id).enums ∨
        (definition.owner = id ∧ IsClassName definition.name)) : s'.Outermost := by
  refine ⟨?_, fun {path name} found => ?_, fun {id} inside top unpinned => ?_,
    fun {path name} found => ?_, fun {id} inside => ?_,
    fun {id definition} mem => (enums mem).elim h.enum fun new => new⟩
  · rw [same.topLevel]
    exact h.order
  · rw [same.pinned] at found
    rw [owners]
    exact h.own found
  · rw [same.size] at inside
    rw [(same.declaration id).enclosing] at top
    rw [same.pinned, (same.declaration id).path] at unpinned
    obtain ⟨owner, noted, inside', isPinned⟩ := h.owner inside top unpinned
    refine ⟨owner, ?_, ?_, ?_⟩
    · rw [owners, (same.declaration id).path]
      exact noted
    · rwa [same.size]
    · rwa [same.pinned, (same.declaration owner).path]
  · rw [same.pinned] at found
    exact h.pinnedName found
  · rw [same.size] at inside
    rw [(same.declaration id).name]
    exact h.name inside

/-- A class is declared that belongs to the root or to a member if it stands at the top level. -/
theorem declare (h : s.Outermost) (nesting : s.Nesting) {model : ClassModel}
    (inside : ∀ outer ∈ model.enclosing, outer < s.graph.size)
    (owned : model.enclosing = none → s.pinned.lookup model.path = none →
      ∃ owner, s.owners.lookup model.path = some owner ∧ s.IsPinned owner)
    (named : IsClassName model.name) (enums : model.enums = []) :
    (s.declare model).Outermost := by
  have self := s.declare_get_size inside
  have same {id : ClassId} (ne : id ≠ s.graph.size) := (s.declare_same inside ne).1
  have pinned {owner : ClassId} (isPinned : s.IsPinned owner) :
      (s.declare model).IsPinned owner := by
    obtain ⟨lt, found⟩ := isPinned
    refine ⟨?_, ?_⟩
    · rw [declare_size]
      exact Nat.lt_succ_of_lt lt
    · rw [(same (Nat.ne_of_lt lt)).path]
      exact found
  refine ⟨?_, h.own, fun {id} lt top unpinned => ?_, h.pinnedName, fun {id} lt => ?_,
    fun {id definition} mem => ?_⟩
  · rw [declare_topLevel]
    refine List.pairwise_append.2 ⟨h.order, ?_, fun old mem new mem' => ?_⟩
    · split
      · exact List.pairwise_singleton _ _
      · exact .nil
    · split at mem'
      · obtain rfl := List.mem_singleton.1 mem'
        exact (nesting.mem_topLevel_iff.1 mem).1
      · cases mem'
  · by_cases ne : id = s.graph.size
    · subst ne
      rw [self] at top unpinned ⊢
      obtain ⟨owner, noted, isPinned⟩ := owned top unpinned
      exact ⟨owner, noted, pinned isPinned⟩
    · rw [(same ne).enclosing] at top
      rw [(same ne).path] at unpinned ⊢
      obtain ⟨owner, noted, isPinned⟩ :=
        h.owner (s.lt_size_of_lt_declare_size lt ne) top unpinned
      exact ⟨owner, noted, pinned isPinned⟩
  · by_cases ne : id = s.graph.size
    · subst ne
      rw [self]
      exact named
    · rw [(same ne).name]
      exact h.name (s.lt_size_of_lt_declare_size lt ne)
  · by_cases ne : id = s.graph.size
    · subst ne
      rw [self, enums] at mem
      cases mem
    · rw [s.declare_get_of_ne inside ne] at mem
      exact h.enum mem

/-- The owner of a class is noted for a schema that has no class yet. -/
theorem note (h : s.Outermost) {path : String} (unpinned : s.pinned.lookup path = none)
    (unused : ∀ id, id < s.graph.size → (s.graph.get id).path ≠ path) (owner : ClassId) :
    BuildState.Outermost { s with owners := setMember path owner s.owners } := by
  refine ⟨h.order, fun {path' name} found => ?_, fun {id} inside top free => ?_, h.pinnedName,
    h.name, h.enum⟩
  · rw [lookup_setMember, if_neg]
    · exact h.own found
    · rintro rfl
      rw [unpinned] at found
      cases found
  · obtain ⟨owner', noted, isPinned⟩ := h.owner inside top free
    refine ⟨owner', ?_, isPinned⟩
    rw [lookup_setMember, if_neg (unused id inside)]
    exact noted

end Outermost

/-- The name of a new class is one that a schema can have, pinned or not. -/
theorem isClassName_of_placement {node : Node} {fallback name : String}
    {referencing enclosing : Option ClassId} {reserved : ReservedNames} (h : s.Outermost)
    (placed : s.placement node fallback referencing = .ok (name, enclosing, reserved)) :
    IsClassName name := by
  unfold placement at placed
  split at placed
  · rename_i found
    cases placed
    exact h.pinnedName found
  · obtain ⟨given, named, placed⟩ := Except.bind_eq_ok_iff.1 placed
    obtain ⟨_, -, placed⟩ := Except.bind_eq_ok_iff.1 placed
    cases placed
    exact ⟨_, _, named⟩

/-- The owner of a class is noted after the class has been declared, which comes to the same as
noting it before. -/
theorem noteOwner_declare (nesting : s.Nesting) {model : ClassModel} (nested : model.nested = [])
    (inside : ∀ outer ∈ model.enclosing, outer < s.graph.size) {referrer : ClassId}
    (lt : referrer < s.graph.size) (unpinned : s.pinned.lookup model.path = none) :
    (s.declare model).noteOwner model.path (some referrer) = BuildState.declare { s with
      owners := setMember model.path (s.ownerOf (s.graph.topLevel referrer)) s.owners } model := by
  have outermost := nesting.topLevel_outermost lt
  have same : (s.declare model).graph.topLevel referrer = s.graph.topLevel referrer := by
    unfold ClassGraph.topLevel
    rw [nesting.enclosing_declare inside nested lt]
  have path : ((s.declare model).graph.get (s.graph.topLevel referrer)).path =
      (s.graph.get (s.graph.topLevel referrer)).path :=
    (s.declare_same inside (Nat.ne_of_lt outermost.1)).1.path
  have owner : (s.declare model).ownerOf ((s.declare model).graph.topLevel referrer) =
      s.ownerOf (s.graph.topLevel referrer) := by
    unfold ownerOf
    rw [same, path]
    rfl
  unfold noteOwner
  rw [show (s.declare model).pinned.lookup model.path = none from unpinned]
  simp only [owner]
  rfl

/-- A class at the top level that is not pinned belongs to the owner of the outermost class around
the one that refers to it. -/
theorem Outermost.begin (h : s.Outermost) (nesting : s.Nesting) {model : ClassModel}
    {reserved : ReservedNames} {referencing : Option ClassId} (nested : model.nested = [])
    (enums : model.enums = []) (inside : ∀ outer ∈ model.enclosing, outer < s.graph.size)
    (unused : ∀ id, id < s.graph.size → (s.graph.get id).path ≠ model.path)
    (leads : s.LeadsTo model.path referencing) (named : IsClassName model.name) :
    (s.begin reserved model referencing).Outermost := by
  have taken : BuildState.Outermost { s with reserved } :=
    ⟨h.order, h.own, h.owner, h.pinnedName, h.name, h.enum⟩
  have nesting' : BuildState.Nesting { s with reserved } := nesting.congr rfl rfl
  unfold BuildState.begin
  extract_lets declared
  split
  · cases found : s.pinned.lookup model.path with
    | some name =>
      have kept : declared.noteOwner model.path referencing = declared := by
        unfold BuildState.noteOwner
        rw [show declared.pinned.lookup model.path = some name from found]
      rw [kept]
      refine taken.declare nesting' inside (fun _ unpinned => ?_) named enums
      exact absurd (found.symm.trans unpinned) (by simp)
    | none =>
      cases referencing with
      | none =>
        have pinned : (s.pinned.lookup model.path).isSome := leads
        rw [found] at pinned
        cases pinned
      | some referrer =>
        have active : s.IsActive referrer := leads
        obtain ⟨lt, top⟩ := nesting.topLevel_outermost active.inside
        have noted := taken.note found unused (s.ownerOf (s.graph.topLevel referrer))
        rw [noteOwner_declare nesting' nested inside active.inside found]
        refine noted.declare (nesting.congr rfl rfl) inside (fun _ _ => ?_) named enums
        exact ⟨_, (lookup_setMember _ _ _ _).trans (if_pos rfl), h.isPinned_ownerOf lt top⟩
  · rename_i around
    exact taken.declare nesting' inside (fun none => absurd none (by simpa using around)) named
      enums

end BuildState

/-- Every step keeps the top level in order. -/
theorem Step.outermost {source : Source} {floor : ClassId} {s s' : BuildState}
    (step : Step source floor s s') (h : s.Outermost) (nesting : s.Nesting)
    (paths : s.Paths source.root) : s'.Outermost := by
  cases step with
  | progress inProgress => exact h.of_sameShape (.progress s inProgress) rfl fun mem => .inl mem
  | @declare node _ name referencing enclosing reserved _ _ fresh leads placed inside =>
    refine h.begin nesting rfl rfl inside (fun id lt path => ?_) leads
      (BuildState.isClassName_of_placement h placed)
    obtain ⟨latest, found, -⟩ := paths.entered lt
    rw [path, show (blankClass source node name enclosing).path = node.path from rfl,
      fresh] at found
    cases found
  | variant _ active _ _ _ named =>
    exact h.declare nesting (by simpa [variantClass] using active.inside)
      (fun none => by cases none) named rfl
  | @fill other f _ active filling =>
    refine h.of_sameShape (.fill active.inside filling) rfl fun {id definition} mem => .inl ?_
    by_cases eq : id = other
    · subst eq
      rwa [s.change_get_self active.inside, filling.sameDeclaration.2.2.1] at mem
    · rwa [s.change_get_of_ne eq] at mem
  | @enum owner new active owned named =>
    refine h.of_sameShape (.enum active.inside) rfl fun {id definition} mem => ?_
    by_cases eq : id = owner
    · subst eq
      rw [s.change_get_self active.inside] at mem
      rcases List.mem_append.1 mem with old | new
      · exact .inl old
      · obtain rfl := List.mem_singleton.1 new
        exact .inr ⟨owned, named⟩
    · rw [s.change_get_of_ne eq] at mem
      exact .inl mem

end SchemaClasses
