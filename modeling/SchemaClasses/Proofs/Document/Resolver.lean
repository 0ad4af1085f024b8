import SchemaClasses.Document.Resolver
import SchemaClasses.Proofs.Document.Following

/-!
# Calls of a resolver

A resolver marks the pointers of the blocks that are open, whatever has been called before and
whether it has failed. A block is opened only for a pointer that is not marked, so that no two open
blocks have the same pointer, and the mark that one takes away at its end is not needed by another.

## Main definitions

* `Resolver.Call.opens`, `Resolver.openAfter`: the references of the blocks that calls leave open.
* `Resolver.Tracks`: a resolver marks the pointers of open blocks.

## Main statements

* `Resolver.call_enter`, `Resolver.call_leave`: what the steps of a call come to.
* `Resolver.Tracks.call`, `Resolver.Tracks.afterCalls`: a call, and a sequence of calls, keeps track
  of the open blocks.
-/

namespace SchemaClasses

/-! ## Entering -/

section

variable {root : Node} {inProgress : List String} {reference : String}

theorem enter_marked (marked : Pointer.canonical reference ∈ inProgress) :
    enter root inProgress reference = .error
      (.cyclicReference reference "cycle through a type that is not an object class") :=
  if_pos marked

theorem enter_unmarked (unmarked : Pointer.canonical reference ∉ inProgress) :
    enter root inProgress reference =
      (resolve root reference).map (⟨Pointer.canonical reference, ·⟩) := by
  rw [enter, if_neg unmarked]
  cases resolve root reference <;> rfl

/-- Entering fails over a cycle for a pointer that is in progress, and for no other one. -/
theorem exists_enter_eq_cyclicReference_iff :
    (∃ pointer reason, enter root inProgress reference =
        .error (.cyclicReference pointer reason)) ↔
      Pointer.canonical reference ∈ inProgress := by
  refine ⟨fun ⟨pointer, reason, refused⟩ => ?_, fun marked => ⟨_, _, enter_marked marked⟩⟩
  by_contra unmarked
  rw [enter_unmarked unmarked] at refused
  cases found : resolve root reference with
  | ok target => simp [found, Except.map] at refused
  | error failure =>
    have isCyclic : failure = .cyclicReference pointer reason := by
      simpa [found, Except.map] using refused
    exact resolve_ne_cyclicReference found isCyclic

end

namespace Resolver

/-! ## Calls -/

section

variable (resolver : Resolver)

theorem ofRoot_run {α : Type} (result : Node → Except Failure α) :
    (ofRoot result).run resolver =
      match result resolver.root with
      | .ok a => .ok a resolver
      | .error failure => .error failure resolver := by
  simp only [ofRoot, EStateM.run_bind, EStateM.run_get]
  cases result resolver.root <;> rfl

/-- When the step fails, the pointer is no longer marked. -/
theorem unmarkingFailed_run {α : Type} (pointer : String) (step : Work α) :
    (unmarkingFailed pointer step).run resolver =
      match step.run resolver with
      | .ok a after => .ok a after
      | .error failure after => .error failure (after.unmark pointer) := by
  change (tryCatch step _ : Work α) resolver = _
  simp only [tryCatch, tryCatchThe, MonadExceptOf.tryCatch, EStateM.tryCatch, EStateM.run]
  cases step resolver <;> rfl

theorem call_resolve (reference : String) :
    resolver.call (.resolve reference) =
      (.node <$> SchemaClasses.resolve resolver.root reference, resolver) := by
  simp only [call, perform, EStateM.run_bind, ofRoot_run]
  cases SchemaClasses.resolve resolver.root reference <;> rfl

theorem call_definitions (reference : String) (include? : Option (List String)) :
    resolver.call (.definitions reference include?) =
      (.definitions <$> SchemaClasses.definitions resolver.root reference include?, resolver) := by
  simp only [call, perform, EStateM.run_bind, ofRoot_run]
  cases SchemaClasses.definitions resolver.root reference include? <;> rfl

theorem call_follow (node : Node) :
    resolver.call (.follow node) =
      ((fun resolved => .followed resolved (resolver.inProgress.contains resolved.pointer)) <$>
        SchemaClasses.follow resolver.root node, resolver) := by
  simp only [call, perform, follow, EStateM.run_bind, ofRoot_run]
  cases SchemaClasses.follow resolver.root node <;> rfl

/-- A pointer that was not marked is marked and then no longer. -/
theorem unmark_mark {pointer : String} (fresh : pointer ∉ resolver.inProgress) :
    (resolver.mark pointer).unmark pointer = resolver := by
  obtain ⟨root, inProgress, blocks⟩ := resolver
  have others : ∀ other ∈ inProgress, other ≠ pointer := by
    rintro other mem rfl
    exact fresh mem
  simpa [mark, unmark, List.insert_of_not_mem fresh] using others

/-- A block is opened for what a reference designates, unless its pointer is marked. When that fails
the resolver is as it was. -/
theorem call_enter (reference : String) :
    resolver.call (.enter reference) =
      match SchemaClasses.enter resolver.root resolver.inProgress reference with
      | .ok resolved => (.ok (.entered resolved),
          { resolver.mark resolved.pointer with blocks := resolved.pointer :: resolver.blocks })
      | .error failure => (.error failure, resolver) := by
  simp only [call, perform, enter, EStateM.run_bind, EStateM.run_get]
  by_cases marked : Pointer.canonical reference ∈ resolver.inProgress
  · rw [if_pos marked, enter_marked marked]
    rfl
  · rw [if_neg marked, enter_unmarked marked]
    simp only [EStateM.run_bind, EStateM.run_modify, unmarkingFailed_run, ofRoot_run]
    have root : (resolver.mark (Pointer.canonical reference)).root = resolver.root := rfl
    rw [root]
    cases SchemaClasses.resolve resolver.root reference with
    | ok target => rfl
    | error failure => simp [unmark_mark resolver marked, Except.map]

theorem call_leave :
    resolver.call .leave =
      match resolver.blocks with
      | [] => (.error .nothingEntered, resolver)
      | pointer :: blocks => (.ok .left, { resolver.unmark pointer with blocks }) := by
  simp only [call, perform, leave, EStateM.run_bind, EStateM.run_get]
  cases resolver.blocks <;> rfl

end

/-! ## Open blocks -/

/-- The references of the open blocks after a call, given those before it: a reference is added when
a block has been opened for it, and the last one is taken away when a block has ended. -/
def Call.opens (opened : List String) : Call → Except Failure Answer → List String
  | .enter reference, .ok _ => reference :: opened
  | .leave, .ok _ => opened.tail
  | _, _ => opened

def openAfter (resolver : Resolver) (opened : List String) : List Call → List String
  | [] => opened
  | call :: rest =>
    openAfter (resolver.call call).2 (call.opens opened (resolver.call call).1) rest

/-- A resolver has the open blocks of some references, and marks their pointers. -/
structure Tracks (resolver : Resolver) (opened : List String) : Prop where
  blocks : resolver.blocks = opened.map Pointer.canonical
  nodup : resolver.blocks.Nodup
  marks : ∀ pointer, pointer ∈ resolver.inProgress ↔ pointer ∈ resolver.blocks

section

variable {resolver : Resolver} {opened : List String} {pointer other : String}

theorem mem_mark : other ∈ (resolver.mark pointer).inProgress ↔
    other = pointer ∨ other ∈ resolver.inProgress :=
  List.mem_insert_iff

theorem mem_unmark : other ∈ (resolver.unmark pointer).inProgress ↔
    other ∈ resolver.inProgress ∧ other ≠ pointer := by
  simp [unmark]

theorem Tracks.of_root (root : Node) : Tracks { root } [] :=
  ⟨rfl, List.nodup_nil, fun _ => Iff.rfl⟩

/-- Entering marks the pointer of a reference, unless it is in progress. -/
theorem Tracks.enter (h : resolver.Tracks opened) (reference : String) :
    (resolver.call (.enter reference)).2.Tracks
      (Call.opens opened (.enter reference) (resolver.call (.enter reference)).1) := by
  rw [call_enter]
  by_cases marked : Pointer.canonical reference ∈ resolver.inProgress
  · rw [enter_marked marked]
    exact h
  · rw [enter_unmarked marked]
    cases SchemaClasses.resolve resolver.root reference with
    | error failure => exact h
    | ok target =>
      have fresh : Pointer.canonical reference ∉ resolver.blocks := mt (h.marks _).2 marked
      refine ⟨congrArg (Pointer.canonical reference :: ·) h.blocks,
        List.nodup_cons.2 ⟨fresh, h.nodup⟩, fun other => ?_⟩
      change other ∈ (resolver.mark (Pointer.canonical reference)).inProgress ↔
        other ∈ Pointer.canonical reference :: resolver.blocks
      rw [mem_mark, List.mem_cons, h.marks]

/-- Leaving takes the mark of the last reference away. -/
theorem Tracks.leave (h : resolver.Tracks opened) :
    (resolver.call .leave).2.Tracks (Call.opens opened .leave (resolver.call .leave).1) := by
  rw [call_leave]
  cases blocks : resolver.blocks with
  | nil => exact h
  | cons pointer rest =>
    have nodup := List.nodup_cons.1 (blocks ▸ h.nodup)
    refine ⟨?_, nodup.2, fun other => ?_⟩
    · have references := h.blocks
      rw [blocks] at references
      simpa [Call.opens] using congrArg List.tail references
    · have marked := h.marks other
      rw [blocks] at marked
      change other ∈ (resolver.unmark pointer).inProgress ↔ other ∈ rest
      grind [mem_unmark]

/-- A call keeps track of the open blocks. -/
theorem Tracks.call (h : resolver.Tracks opened) (call : Call) :
    (resolver.call call).2.Tracks (call.opens opened (resolver.call call).1) := by
  cases call with
  | resolve reference => rw [call_resolve]; exact h
  | follow node => rw [call_follow]; exact h
  | definitions reference include? => rw [call_definitions]; exact h
  | enter reference => exact h.enter reference
  | leave => exact h.leave

/-- A sequence of calls keeps track of the open blocks. -/
theorem Tracks.afterCalls (h : resolver.Tracks opened) (calls : List Call) :
    (resolver.afterCalls calls).Tracks (resolver.openAfter opened calls) := by
  induction calls generalizing resolver opened with
  | nil => exact h
  | cons call rest ih => exact ih (h.call call)

-- The second block is not opened, its pointer being that of the first one.
example : (Resolver.afterCalls { root := .ofValue (.object [("name", .string "Order")]) }
    [.enter "#/name", .enter "/name/", .enter "#"]).inProgress = ["", "/name"] := by
  decide +kernel

end

/-! ## What calls tell -/

/-- A resolver with the open blocks of some references marks just their pointers, refuses to open a
block just for those, is as it was when it opens none, and tells just for those that they are in
progress. -/
structure Reports (resolver : Resolver) (opened : List String) : Prop where
  marks : ∀ pointer,
    pointer ∈ resolver.inProgress ↔ pointer ∈ opened.map Pointer.canonical
  refuses : ∀ reference,
    (∃ pointer reason,
      (resolver.call (.enter reference)).1 = .error (.cyclicReference pointer reason)) ↔
        Pointer.canonical reference ∈ resolver.inProgress
  failed : ∀ reference failure, (resolver.call (.enter reference)).1 = .error failure →
    (resolver.call (.enter reference)).2 = resolver
  followed : ∀ node resolved inProgress,
    (resolver.call (.follow node)).1 = .ok (.followed resolved inProgress) →
      (inProgress ↔ resolved.pointer ∈ resolver.inProgress)

/-- What a resolver marks decides what it refuses and what it tells. -/
theorem Tracks.reports {resolver : Resolver} {opened : List String} (h : resolver.Tracks opened) :
    resolver.Reports opened := by
  refine ⟨fun pointer => h.blocks ▸ h.marks pointer, fun reference => ?_,
    fun reference failure failed => ?_, fun node resolved inProgress found => ?_⟩
  · have cyclic := @exists_enter_eq_cyclicReference_iff resolver.root resolver.inProgress reference
    rw [call_enter, ← cyclic]
    cases SchemaClasses.enter resolver.root resolver.inProgress reference <;> simp
  · rw [call_enter] at failed ⊢
    split at failed <;> simp_all
  · rw [call_follow] at found
    obtain ⟨resolved', -, same⟩ := Except.map_eq_ok_iff.1 found
    cases same
    exact List.contains_iff_mem

end Resolver

end SchemaClasses
