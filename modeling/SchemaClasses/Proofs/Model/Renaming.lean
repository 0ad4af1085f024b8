import SchemaClasses.Proofs.Emission
import SchemaClasses.Proofs.Model.Graph

/-!
# Copies of a part of a class graph

Two runs may number their classes differently, and one of them may have classes that the other one
has not. What is written of a class looks at a part of the graph only, and it does not tell a copy
of that part in another graph, with other numbers, from the part itself.

## Main definitions

* `TypeRef.rename`, `Property.rename`, `ClassTree.rename`: the same with other numbers for classes.
* `ClassGraph.Part`: a part of a graph, with all that is looked at.
* `ClassGraph.Part.CopiedBy`: another graph has a copy of the part.

## Main statements

* `ClassGraph.Part.ComposedBy.lineage_eq`, `ClassGraph.Part.CopiedBy.enclosing_eq`: the bases of a
  copy and the classes around it are copies of those of the class.
-/

namespace SchemaClasses

variable {f : ClassId → ClassId}

/-! ## Renaming -/

def EnumDef.rename (f : ClassId → ClassId) (definition : EnumDef) : EnumDef :=
  { definition with owner := f definition.owner }

def TypeRef.rename (f : ClassId → ClassId) : TypeRef → TypeRef
  | .primitive kind format => .primitive kind format
  | .ofClass id => .ofClass (f id)
  | .sequence item constraints => .sequence (item.rename f) constraints
  | .map value => .map (value.rename f)
  | .enum definition => .enum (definition.rename f)
  | .undetermined => .undetermined
  | .absent => .absent

def Property.rename (f : ClassId → ClassId) (property : Property) : Property :=
  { property with type := property.type.rename f }

namespace ClassTree

mutual

def rename (f : ClassId → ClassId) : ClassTree → ClassTree
  | .node id nested => .node (f id) (renameAll f nested)

def renameAll (f : ClassId → ClassId) : List ClassTree → List ClassTree
  | [] => []
  | tree :: rest => rename f tree :: renameAll f rest

end

theorem renameAll_eq (f : ClassId → ClassId) (trees : List ClassTree) :
    renameAll f trees = trees.map (rename f) := by
  induction trees with
  | nil => rfl
  | cons tree rest ih => rw [renameAll, ih, List.map_cons]

@[simp] theorem id_rename (f : ClassId → ClassId) (tree : ClassTree) :
    (tree.rename f).id = f tree.id := by
  cases tree
  rfl

mutual

theorem classes_rename (f : ClassId → ClassId) :
    (tree : ClassTree) → (tree.rename f).classes = tree.classes.map f
  | .node id nested => by
    rw [rename, classes, classes, classesOfAll_renameAll f nested, List.map_cons]

theorem classesOfAll_renameAll (f : ClassId → ClassId) :
    (trees : List ClassTree) → classesOfAll (renameAll f trees) = (classesOfAll trees).map f
  | [] => rfl
  | tree :: rest => by
    rw [renameAll, classesOfAll, classesOfAll, classes_rename f tree, classesOfAll_renameAll f rest,
      List.map_append]

end

end ClassTree

/-! ## Parts -/

namespace ClassGraph

/-- A part of a graph that is looked at when a class at the top level is written: the classes that
are written with it, those whose content is looked at, and those whose names are. -/
structure Part (graph : ClassGraph) (top : ClassId) where
  written : ClassId → Prop
  shown : ClassId → Prop
  named : ClassId → Prop
  outward : graph.Founded (·.enclosing)
  bases : graph.Founded (·.base)
  inside : ∀ {id}, named id → id < graph.size
  top_written : written top
  shown_of_written : ∀ {id}, written id → shown id
  named_of_shown : ∀ {id}, shown id → named id
  tree_written : ∀ {id other}, written id → other ∈ (graph.tree id).classes → written other
  around_written : ∀ {id outer}, written id → (graph.get id).enclosing = some outer → written outer
  written_of_topLevel : ∀ {id}, shown id → graph.topLevel id = top → written id
  base_shown : ∀ {id base}, shown id → (graph.get id).base = some base → shown base
  nested_named : ∀ {id inner}, shown id → inner ∈ (graph.get id).nested → named inner
  mentioned_named : ∀ {id property other}, shown id → property ∈ (graph.get id).properties →
    other ∈ property.type.mentioned → named other
  around_named : ∀ {id outer}, named id → (graph.get id).enclosing = some outer → named outer

structure Part.ComposedBy {graph : ClassGraph} {top : ClassId} (part : graph.Part top)
    (graph' : ClassGraph) (f : ClassId → ClassId) : Prop where
  bases : graph'.Founded (·.base)
  inside : ∀ {id}, part.named id → f id < graph'.size
  base : ∀ {id}, part.shown id → (graph'.get (f id)).base = (graph.get id).base.map f
  properties : ∀ {id}, part.shown id →
    (graph'.get (f id)).properties = (graph.get id).properties.map (·.rename f)

/-- Another graph has a copy of a part, with other numbers. -/
structure Part.CopiedBy {graph : ClassGraph} {top : ClassId} (part : graph.Part top)
    (graph' : ClassGraph) (f : ClassId → ClassId) : Prop extends part.ComposedBy graph' f where
  outward : graph'.Founded (·.enclosing)
  injective : ∀ {a b}, part.named a → part.named b → f a = f b → a = b
  name : ∀ {id}, part.named id → (graph'.get (f id)).name = (graph.get id).name
  package : ∀ {id}, part.named id → (graph'.get (f id)).package = (graph.get id).package
  enclosing : ∀ {id}, part.named id →
    (graph'.get (f id)).enclosing = (graph.get id).enclosing.map f
  kind : ∀ {id}, part.shown id → (graph'.get (f id)).kind = (graph.get id).kind
  nested : ∀ {id}, part.shown id → (graph'.get (f id)).nested = (graph.get id).nested.map f
  enums : ∀ {id}, part.shown id → (graph'.get (f id)).enums = (graph.get id).enums.map (·.rename f)
  tree : ∀ {id}, part.written id → graph'.tree (f id) = (graph.tree id).rename f

namespace Part

variable {graph graph' : ClassGraph} {top id : ClassId} {part : graph.Part top}

/-- The classes around a named class are named. -/
theorem named_of_mem_enclosing (part : graph.Part top) (named : part.named id) {outer : ClassId}
    (mem : outer ∈ graph.enclosing id) : part.named outer := by
  induction part.outward.wellFounded.apply id with
  | intro id _ ih =>
    rw [enclosing_eq part.outward] at mem
    cases around : (graph.get id).enclosing with
    | none => simp [around] at mem
    | some next =>
      rw [around] at mem
      have named' := part.around_named named around
      rcases List.mem_cons.1 mem with rfl | mem
      · exact named'
      · exact ih next around named' mem

/-- The classes around a written class are written. -/
theorem written_of_mem_enclosing (part : graph.Part top) (written : part.written id)
    {outer : ClassId} (mem : outer ∈ graph.enclosing id) : part.written outer := by
  induction part.outward.wellFounded.apply id with
  | intro id _ ih =>
    rw [enclosing_eq part.outward] at mem
    cases around : (graph.get id).enclosing with
    | none => simp [around] at mem
    | some next =>
      rw [around] at mem
      have written' := part.around_written written around
      rcases List.mem_cons.1 mem with rfl | mem
      · exact written'
      · exact ih next around written' mem

theorem named_topLevel (part : graph.Part top) (named : part.named id) :
    part.named (graph.topLevel id) := by
  rcases graph.topLevel_mem_enclosing id with eq | mem
  · rwa [eq]
  · exact part.named_of_mem_enclosing named mem

theorem named_of_written (part : graph.Part top) (written : part.written id) : part.named id :=
  part.named_of_shown (part.shown_of_written written)

/-- The bases of a shown class are shown. -/
theorem shown_of_mem_lineage (part : graph.Part top) (shown : part.shown id) {ancestor : ClassId}
    (mem : ancestor ∈ graph.lineage id) : part.shown ancestor := by
  induction part.bases.wellFounded.apply id with
  | intro id _ ih =>
    rw [lineage_eq part.bases (part.inside (part.named_of_shown shown))] at mem
    rcases List.mem_cons.1 mem with rfl | mem
    · exact shown
    · cases found : (graph.get id).base with
      | none => simp [found] at mem
      | some base =>
        rw [found] at mem
        exact ih base found (part.base_shown shown found) mem

/-- The classes in the types of the properties of a class are named, inherited properties
included. -/
theorem named_of_mem_allProperties (part : graph.Part top) (shown : part.shown id)
    {property : Property} (mem : property ∈ graph.allProperties id) {other : ClassId}
    (mentioned : other ∈ property.type.mentioned) : part.named other := by
  obtain ⟨base, inLineage, mem⟩ := List.mem_flatMap.1 mem
  have shown' := part.shown_of_mem_lineage shown (List.mem_reverse.1 inLineage)
  exact part.mentioned_named shown' mem mentioned

namespace ComposedBy

variable (copy : part.ComposedBy graph' f)
include copy

/-- The bases of a copy are the copies of the bases. -/
theorem lineage_eq (shown : part.shown id) : graph'.lineage (f id) = (graph.lineage id).map f := by
  induction part.bases.wellFounded.apply id with
  | intro id _ ih =>
    have named := part.named_of_shown shown
    rw [ClassGraph.lineage_eq copy.bases (copy.inside named),
      ClassGraph.lineage_eq part.bases (part.inside named), copy.base shown]
    cases found : (graph.get id).base with
    | none => rfl
    | some base =>
      have eq := ih base found (part.base_shown shown found)
      rw [Option.map_some, Option.elim_some, Option.elim_some, eq, List.map_cons]

theorem allProperties_eq (shown : part.shown id) :
    graph'.allProperties (f id) = (graph.allProperties id).map (·.rename f) := by
  unfold allProperties
  rw [copy.lineage_eq shown, ← List.map_reverse, List.flatMap_map, List.map_flatMap]
  refine List.flatMap_congr fun base mem => copy.properties ?_
  exact part.shown_of_mem_lineage shown (List.mem_reverse.1 mem)

end ComposedBy

namespace CopiedBy

variable (copy : part.CopiedBy graph' f)
include copy

/-- The classes around a copy are the copies of the classes around it. -/
theorem enclosing_eq (named : part.named id) :
    graph'.enclosing (f id) = (graph.enclosing id).map f := by
  induction part.outward.wellFounded.apply id with
  | intro id _ ih =>
    rw [ClassGraph.enclosing_eq copy.outward, ClassGraph.enclosing_eq part.outward,
      copy.enclosing named]
    cases around : (graph.get id).enclosing with
    | none => rfl
    | some next =>
      have eq := ih next around (part.around_named named around)
      rw [Option.map_some, Option.elim_some, Option.elim_some, eq, List.map_cons]

/-- The outermost class around a copy is the copy of the outermost one. -/
theorem topLevel_eq (named : part.named id) : graph'.topLevel (f id) = f (graph.topLevel id) := by
  unfold topLevel
  rw [copy.enclosing_eq named]
  cases graph.enclosing id with
  | nil => rfl
  | cons outer rest =>
    rw [List.map_cons, List.getLastD_cons, List.getLastD_cons, List.getLastD_eq_getLast?,
      List.getLastD_eq_getLast?, List.getLast?_map]
    cases rest.getLast? <;> rfl

/-- The names around a copy are the same. -/
theorem nameChain_eq (named : part.named id) : graph'.nameChain (f id) = graph.nameChain id := by
  unfold nameChain
  rw [copy.enclosing_eq named, ← List.map_reverse, ← List.map_singleton, ← List.map_append,
    List.map_map]
  refine List.map_congr_left fun outer mem => copy.name ?_
  rcases List.mem_append.1 mem with mem | mem
  · exact part.named_of_mem_enclosing named (List.mem_reverse.1 mem)
  · exact List.mem_singleton.1 mem ▸ named

theorem qualifiedName_eq (named : part.named id) :
    graph'.qualifiedName (f id) = graph.qualifiedName id := by
  unfold qualifiedName
  rw [copy.nameChain_eq named]

theorem contains_eq {ids : List ClassId} (all : ∀ other ∈ ids, part.named other)
    (named : part.named id) : (ids.map f).contains (f id) = ids.contains id := by
  rw [Bool.eq_iff_iff, List.contains_iff_mem, List.contains_iff_mem, List.mem_map]
  constructor
  · rintro ⟨other, mem, eq⟩
    exact copy.injective (all other mem) named eq ▸ mem
  · exact fun mem => ⟨id, mem, rfl⟩

theorem bne_eq {a b : ClassId} (namedA : part.named a) (namedB : part.named b) :
    (f a != f b) = (a != b) := by
  rw [Bool.eq_iff_iff, bne_iff_ne, bne_iff_ne, not_iff_not]
  exact ⟨copy.injective namedA namedB, congrArg f⟩

end CopiedBy

end Part

end ClassGraph

end SchemaClasses
