import Mathlib.Data.List.Nodup
import SchemaClasses.Proofs.Build.Outermost

/-!
# Sound states

The invariant of a build, and what follows from it.

## Main definitions

* `BuildState.Sound`: the invariant.

## Main statements

* `Steps.sound`: steps keep a state sound.
* `BuildState.Sound.nodup_topLevel`: the classes at the top level have distinct names.
* `Kept.allProperties`: steps do not change the properties of classes that were declared before.
* `BuildState.Sound.mem_owned_iff`: the classes that belong to a root or a member.
* `BuildState.Sound.nodup_flatMap_owned`: no class belongs to two of them.
* `BuildState.Sound.exists_owner`: a class that is neither of them belongs to exactly one.
-/

namespace SchemaClasses

variable {source : Source} {floor : ClassId} {s s' : BuildState}

/-- The invariant of a build for a document in which no object has a key twice. -/
structure BuildState.Sound (source : Source) (s : BuildState) : Prop where
  distinct : source.root.value.distinctKeys
  top : source.root.path = ""
  nesting : s.Nesting
  composition : s.graph.Composition source.root
  paths : s.Paths source.root
  names : s.Names source.root
  outermost : s.Outermost

/-- Every step keeps a state sound, since it keeps each part of the invariant. -/
theorem Step.sound (step : Step source floor s s') (h : s.Sound source) : s'.Sound source where
  distinct := h.distinct
  top := h.top
  nesting := step.nesting h.nesting
  composition := step.composition h.composition
  paths := step.paths h.distinct h.top h.paths h.composition
  names := step.names h.distinct h.top h.names h.nesting
  outermost := step.outermost h.outermost h.nesting h.paths

/-- Steps keep a state sound. -/
theorem Steps.sound (steps : Steps source floor s s') (h : s.Sound source) : s'.Sound source := by
  induction steps with
  | refl => exact h
  | tail _ step ih => exact step.sound ih

/-- The classes at the top level have distinct names: each has its name reserved for its schema, and
no other class there has the same schema. -/
theorem BuildState.Sound.nodup_topLevel (h : s.Sound source) :
    (s.topLevel.map fun id => (s.graph.get id).name).Nodup := by
  have once (id : ClassId) : s.topLevel.count id ≤ 1 := by
    rw [h.nesting.count_topLevel]
    split
    · exact Nat.le_refl 1
    · exact Nat.zero_le 1
  have noVariant {id : ClassId} (top : (s.graph.get id).enclosing = none) :
      (s.graph.get id).kind ≠ .nestedVariant := by
    intro kind
    obtain ⟨base, found⟩ := h.composition.variant kind
    rcases h.composition.base found with variant | extension
    · exact absurd (top.symm.trans variant.enclosing) (by simp)
    · rcases extension.kind with eq | eq <;> simp [kind] at eq
  refine List.Nodup.map_on (fun a memA b memB name => ?_) (List.nodup_iff_count_le_one.2 once)
  obtain ⟨ltA, topA⟩ := h.nesting.mem_topLevel_iff.1 memA
  obtain ⟨ltB, topB⟩ := h.nesting.mem_topLevel_iff.1 memB
  have takenA := h.names.reserved ltA topA
  have takenB := h.names.reserved ltB topB
  rw [name] at takenA
  have path := Option.some.inj (takenA.symm.trans takenB)
  exact h.paths.eq_of_path ltA ltB (noVariant topA) (noVariant topB) path

/-- Steps that fill no class of a state do not change the lineages of its classes. -/
theorem Kept.lineage (kept : Kept floor s s') (h : s.Sound source) (h' : s'.Sound source)
    (le : s.graph.size ≤ floor) {id : ClassId} (inside : id < s.graph.size) :
    s'.graph.lineage id = s.graph.lineage id :=
  ClassGraph.lineage_congr h.composition.founded h'.composition.founded kept.size_le
    (· < s.graph.size) (fun lt => lt)
    (fun lt => (kept.content lt (Nat.lt_of_lt_of_le lt le)).base)
    (fun _ found => h.composition.founded.lt_size found) inside

/-- Steps that fill no class of a state do not change the properties of its classes. -/
theorem Kept.allProperties (kept : Kept floor s s') (h : s.Sound source) (h' : s'.Sound source)
    (le : s.graph.size ≤ floor) {id : ClassId} (inside : id < s.graph.size) :
    s'.graph.allProperties id = s.graph.allProperties id := by
  induction h.composition.founded.wellFounded.apply id with
  | intro id _ ih =>
    have same := kept.content inside (Nat.lt_of_lt_of_le inside le)
    rw [ClassGraph.allProperties_eq h.composition.founded inside,
      ClassGraph.allProperties_eq h'.composition.founded (Nat.lt_of_lt_of_le inside kept.size_le),
      same.base, same.properties]
    cases hbase : (s.graph.get id).base with
    | none => rfl
    | some base =>
      rw [Option.elim_some, Option.elim_some, ih base hbase (h.composition.founded.lt_size hbase)]

/-! ## Owned classes

The classes at the top level are divided among the root or the members of the container: each
belongs to exactly one of them.
-/

namespace BuildState

variable {id owner : ClassId}

/-- What belongs to a class besides itself. -/
theorem mem_owned_iff_of_ne (ne : owner ≠ id) :
    id ∈ s.owned owner ↔ id ∈ s.topLevel ∧ s.ownerOf id = owner := by
  simp only [owned, List.mem_cons, List.mem_filter, Bool.and_eq_true, bne_iff_ne,
    decide_eq_true_eq]
  grind

namespace Sound

theorem mem_topLevel_of_isPinned (h : s.Sound source) (isPinned : s.IsPinned id) :
    id ∈ s.topLevel := by
  obtain ⟨inside, pinned⟩ := isPinned
  obtain ⟨name, found⟩ := Option.isSome_iff_exists.1 pinned
  exact h.nesting.mem_topLevel_iff.2 ⟨inside, (h.names.pinnedClass inside found).1⟩

/-- What belongs to a root or a member: the classes at the top level that have it as their owner. -/
theorem mem_owned_iff (h : s.Sound source) (isPinned : s.IsPinned owner) :
    id ∈ s.owned owner ↔ id ∈ s.topLevel ∧ s.ownerOf id = owner := by
  by_cases eq : owner = id
  · subst eq
    have self := h.outermost.ownerOf_eq_self isPinned
    exact iff_of_true List.mem_cons_self ⟨h.mem_topLevel_of_isPinned isPinned, self⟩
  · exact mem_owned_iff_of_ne eq

theorem nodup_owned (h : s.Sound source) (owner : ClassId) : (s.owned owner).Nodup := by
  have topLevel : s.topLevel.Nodup := h.outermost.order.imp Nat.ne_of_lt
  refine List.nodup_cons.2 ⟨fun mem => ?_, topLevel.filter _⟩
  simpa using List.of_mem_filter mem

section

variable {owners : List ClassId} (pinned : ∀ owner ∈ owners, s.IsPinned owner)
include pinned

/-- The classes that owners at the top level have among them are those whose owner is one of
them. -/
theorem mem_flatMap_owned_iff (h : s.Sound source) :
    id ∈ owners.flatMap s.owned ↔ id ∈ s.topLevel ∧ s.ownerOf id ∈ owners := by
  rw [List.mem_flatMap]
  constructor
  · rintro ⟨owner, mem, belongs⟩
    obtain ⟨top, rfl⟩ := (h.mem_owned_iff (pinned owner mem)).1 belongs
    exact ⟨top, mem⟩
  · rintro ⟨top, mem⟩
    exact ⟨s.ownerOf id, mem, (h.mem_owned_iff (pinned _ mem)).2 ⟨top, rfl⟩⟩

/-- No class belongs to two roots or members, and none belongs to one of them twice. -/
theorem nodup_flatMap_owned (h : s.Sound source) (nodup : owners.Nodup) :
    (owners.flatMap s.owned).Nodup := by
  refine List.nodup_flatMap.2 ⟨fun owner _ => h.nodup_owned owner, ?_⟩
  refine nodup.imp_of_mem fun {a b} memA memB ne id belongsA belongsB => ne ?_
  have ownerA := ((h.mem_owned_iff (pinned a memA)).1 belongsA).2
  have ownerB := ((h.mem_owned_iff (pinned b memB)).1 belongsB).2
  exact ownerA.symm.trans ownerB

end

/-- A class at the top level that is neither the root nor a member belongs to exactly one of
them. -/
theorem exists_owner (h : s.Sound source) (top : id ∈ s.topLevel) (inline : ¬s.IsPinned id) :
    ∃ owner, s.IsPinned owner ∧ ∀ other, other ≠ id ∧ id ∈ s.owned other ↔ other = owner := by
  obtain ⟨inside, outermost⟩ := h.nesting.mem_topLevel_iff.1 top
  have isPinned := h.outermost.isPinned_ownerOf inside outermost
  refine ⟨s.ownerOf id, isPinned, fun other => ⟨?_, ?_⟩⟩
  · rintro ⟨ne, belongs⟩
    exact ((mem_owned_iff_of_ne ne).1 belongs).2.symm
  · rintro rfl
    have ne : s.ownerOf id ≠ id := fun eq => inline (eq ▸ isPinned)
    exact ⟨ne, (mem_owned_iff_of_ne ne).2 ⟨top, rfl⟩⟩

end Sound

end BuildState

end SchemaClasses
