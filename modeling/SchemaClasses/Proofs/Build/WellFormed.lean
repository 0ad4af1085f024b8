import SchemaClasses.Proofs.Build.Run

/-!
# Well-formed class graphs

What holds of the classes in every state of a run, and so in particular of what a run hands on to be
rendered. The states in which a call has failed are included.

## Main definitions

* `BuildState.WellFormed`: nesting, bases, properties and kinds of classes.
* `BuildState.DistinctlyNamed`: the names of classes and enums.

## Main statements

* `Run.wellFormed`: the states of a run are well formed.
* `Run.distinctlyNamed`: the names in the states of a run are distinct, and registered schemas have
  the names that were registered for them.
-/

namespace SchemaClasses

structure BuildState.WellFormed (root : Node) (succeeded : Bool) (s : BuildState) : Prop where
  /-- A class is declared once in the class around it, and in no other one. -/
  count_nested : ∀ outer id, (s.graph.get outer).nested.count id =
    if (s.graph.get id).enclosing = some outer then 1 else 0
  /-- A class that is in no other one is declared once at the top level. -/
  count_topLevel : ∀ id, s.topLevel.count id =
    if id < s.graph.size ∧ (s.graph.get id).enclosing = none then 1 else 0
  /-- The chain of the classes around a class is finite. -/
  enclosing : WellFounded fun outer id => (s.graph.get id).enclosing = some outer
  /-- No class is among its own bases. -/
  acyclic : WellFounded fun base id => (s.graph.get id).base = some base
  /-- A class with a base is an alternative in its open base, or it extends a complete class. -/
  base : ∀ id base, (s.graph.get id).base = some base →
    s.graph.IsVariant id base ∨ s.graph.IsExtension root id base
  /-- The names of the properties of a class, inherited ones included, are distinct. -/
  properties : ∀ id, id < s.graph.size → ((s.graph.allProperties id).map (·.name)).Nodup
  /-- All classes are complete when nothing has failed. -/
  built : succeeded → ∀ id, id < s.graph.size → (s.graph.get id).built
  /-- A class outside a choice is plain when it has no properties, and otherwise data, when nothing
  has failed. -/
  kind : succeeded → ∀ id, id < s.graph.size → (s.graph.get id).kind ≠ .openBase →
    (s.graph.get id).kind ≠ .nestedVariant →
    ((s.graph.get id).kind = .plain ↔ s.graph.allProperties id = []) ∧
      ((s.graph.get id).kind = .data ↔ s.graph.allProperties id ≠ [])

/-- The names of a state are distinct, and registered schemas have the names that were registered
for them. -/
structure BuildState.DistinctlyNamed (registered : List Definition)
    (returned : List (Definition × ClassId)) (s : BuildState) : Prop where
  /-- The classes at the top level have distinct names. -/
  topLevel : (s.topLevel.map fun id => (s.graph.get id).name).Nodup
  /-- The classes and enums declared in a class have distinct names. -/
  declared : ∀ id, (s.graph.declaredNames id).Nodup
  /-- What is declared in a class does not have the name of the class or of one around it. -/
  scope : ∀ id, ∀ name ∈ s.graph.declaredNames id, name ∉ s.graph.scopeNames id
  /-- A class whose schema has a pinned name is at the top level and has this name. -/
  pinned : ∀ path name, s.pinned.lookup path = some name → ∀ id, id < s.graph.size →
    (s.graph.get id).path = path → id ∈ s.topLevel ∧ (s.graph.get id).name = name
  /-- The name that a registered member asks for is pinned to its schema. -/
  registration : ∀ entry ∈ registered, ∃ name, className (some entry.node) entry.name = .ok name ∧
    s.pinned.lookup entry.node.path = some name
  /-- The class returned for a member is the one for its schema at the top level, and it has the
  name that the member asks for. -/
  results : ∀ result ∈ returned, result.1 ∈ registered ∧ result.2 ∈ s.topLevel ∧
    (s.graph.get result.2).path = result.1.node.path ∧
    className (some result.1.node) result.1.name = .ok (s.graph.get result.2).name

theorem kindFor_eq_plain_iff {properties : List Property} :
    kindFor properties = .plain ↔ properties = [] := by
  cases properties <;> simp [kindFor]

theorem kindFor_eq_data_iff {properties : List Property} :
    kindFor properties = .data ↔ properties ≠ [] := by
  cases properties <;> simp [kindFor]

/-- A document with a choice, an alternative that refers back to it, an extension of a class that is
declared in it, and an enum. -/
def shapes : Value := .object [
  ("title", .string "Shape"),
  ("properties", .object [
    ("color", .object [("enum", .array [.string "red"])]),
    ("style", .object [("title", .string "Style"), ("properties", .object [
      ("width", .object [("type", .string "integer")])])]),
    ("border", .object [("title", .string "Border"), ("allOf", .array [
      .object [("$ref", .string "#/properties/style")],
      .object [("properties", .object [("dashed", .object [("type", .string "boolean")])])]])])]),
  ("oneOf", .array [
    .object [("title", .string "Circle"), ("properties", .object [
      ("radius", .object [("type", .string "number")])])],
    .object [("title", .string "Group"), ("properties", .object [
      ("first", .object [("$ref", .string "#")])])]])]

section

variable {document package : Value} {registered : List Definition}
  {returned : List (Definition × ClassId)} {succeeded : Bool} {s : BuildState}

/-- The states of a run are well formed, also those in which a call has failed. -/
theorem Run.wellFormed (distinct : document.distinctKeys)
    (run : Run ⟨.ofValue document, package⟩ registered returned succeeded s) :
    s.WellFormed (.ofValue document) succeeded := by
  have invariant := run.invariant distinct rfl
  obtain ⟨-, -, nesting, composition, -, -⟩ := invariant.sound
  have complete {id : ClassId} (success : succeeded) (lt : id < s.graph.size)
      (notOpen : (s.graph.get id).kind ≠ .openBase)
      (notVariant : (s.graph.get id).kind ≠ .nestedVariant) :
      (s.graph.get id).kind = kindFor (s.graph.allProperties id) := by
    refine (composition.kind lt (ClassKind.plain_or_data ⟨notOpen, notVariant⟩)).resolve_left ?_
    intro blank
    exact absurd (invariant.built success id lt) (by simp [blank.built])
  exact {
    count_nested := nesting.count_nested
    count_topLevel := nesting.count_topLevel
    enclosing := nesting.founded.wellFounded
    acyclic := composition.founded.wellFounded
    base := fun _ _ => composition.base
    properties := fun _ lt => composition.distinct lt
    built := invariant.built
    kind := fun success id lt notOpen notVariant => by
      rw [complete success lt notOpen notVariant]
      exact ⟨kindFor_eq_plain_iff, kindFor_eq_data_iff⟩ }

theorem Run.wellFormed_shapes : ∃ id s,
    buildRoot ⟨.ofValue shapes, .string ""⟩ (.ofValue shapes) none {} = .ok id s ∧
      s.graph.size = 5 ∧ s.WellFormed (.ofValue shapes) true := by
  have built : ((buildRoot ⟨.ofValue shapes, .string ""⟩ (.ofValue shapes) none >>=
      fun _ => get).run' {}).any fun s => s.graph.size == 5 := by decide +kernel
  obtain ⟨id, s, run, size⟩ := Build.exists_of_any built
  exact ⟨id, s, run, eq_of_beq size, Run.wellFormed (by decide +kernel) (.root run)⟩

/-- The names in the states of a run are distinct, also when a call has failed, and registered
schemas have the names that were registered for them, whatever was placed before. -/
theorem Run.distinctlyNamed (distinct : document.distinctKeys)
    (run : Run ⟨.ofValue document, package⟩ registered returned succeeded s) :
    s.DistinctlyNamed registered returned := by
  have invariant := run.invariant distinct rfl
  have sound := invariant.sound
  have pinned {id : ClassId} {name : String} (lt : id < s.graph.size)
      (found : s.pinned.lookup (s.graph.get id).path = some name) :
      id ∈ s.topLevel ∧ (s.graph.get id).name = name := by
    obtain ⟨top, named⟩ := sound.names.pinnedClass lt found
    refine ⟨List.count_pos_iff.1 ?_, named⟩
    rw [sound.nesting.count_topLevel, if_pos ⟨lt, top⟩]
    exact Nat.one_pos
  exact {
    topLevel := sound.nodup_topLevel
    declared := fun id => (sound.names.declared id).1
    scope := fun id => (sound.names.declared id).2
    pinned := fun path name found id lt eq => pinned lt (eq ▸ found)
    registration := fun entry mem => (invariant.registration entry mem).name
    results := fun result mem => by
      obtain ⟨known, lt, path⟩ := invariant.results result mem
      obtain ⟨name, asked, found⟩ := (invariant.registration _ known).name
      obtain ⟨top, rfl⟩ := pinned lt (path ▸ found)
      exact ⟨known, top, path, asked⟩ }

theorem Run.distinctlyNamed_shapes : ∃ id s,
    buildRoot ⟨.ofValue shapes, .string ""⟩ (.ofValue shapes) none {} = .ok id s ∧
      s.pinned = [("", "Shape")] ∧ s.DistinctlyNamed [⟨"", .ofValue shapes, true⟩]
        [(⟨"", .ofValue shapes, true⟩, id)] := by
  have built : ((buildRoot ⟨.ofValue shapes, .string ""⟩ (.ofValue shapes) none >>=
      fun _ => get).run' {}).any fun s => s.pinned == [("", "Shape")] := by decide +kernel
  obtain ⟨id, s, run, pinned⟩ := Build.exists_of_any built
  exact ⟨id, s, run, eq_of_beq pinned, Run.distinctlyNamed (by decide +kernel) (.root run)⟩

end

end SchemaClasses
