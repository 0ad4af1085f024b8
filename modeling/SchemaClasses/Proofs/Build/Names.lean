import SchemaClasses.Proofs.Build.Nesting
import SchemaClasses.Proofs.Build.Paths

/-!
# Distinct names

A name is checked where it is declared: at the top level against the names that are taken, and in a
class against the names of the classes around it and of what is declared beside it. Names that are
reserved for the root or for a member are taken before anything is built, and so they are kept for
the classes of these schemas.

## Main definitions

* `ClassGraph.scopeNames`: the names of a class and of those around it.
* `ClassGraph.declaredNames`: the names of what is declared in a class.
* `BuildState.Names`: the names of a state are distinct and belong to the right classes.

## Main statements

* `Step.names`: every step keeps it so.
* `BuildState.Names.nodup_topLevel`: the classes at the top level have distinct names.
-/

namespace SchemaClasses

namespace ClassGraph

def scopeNames (graph : ClassGraph) (id : ClassId) : List String :=
  (id :: graph.enclosing id).map fun outer => (graph.get outer).name

def declaredNames (graph : ClassGraph) (id : ClassId) : List String :=
  (graph.get id).nested.map (fun inner => (graph.get inner).name) ++
    (graph.get id).enums.map (·.name)

theorem isFreeIn_iff {graph : ClassGraph} {scope : ClassId} {name : String} :
    graph.isFreeIn scope name ↔
      name ∉ graph.scopeNames scope ∧ name ∉ graph.declaredNames scope := by
  simp only [isFreeIn, scopeNames, declaredNames, Bool.and_eq_true, List.all_eq_true, bne_iff_ne,
    List.map_cons, List.mem_cons, List.mem_map, List.mem_append]
  grind

end ClassGraph

structure BuildState.Names (root : Node) (s : BuildState) : Prop where
  reserved : ∀ {id}, id < s.graph.size → (s.graph.get id).enclosing = none →
    s.reserved.lookup (s.graph.get id).name = some (s.graph.get id).path
  pinned : ∀ {path name}, s.pinned.lookup path = some name → s.reserved.lookup name = some path
  keyed : ∀ {path name}, s.pinned.lookup path = some name →
    ∃ node, root.Keyed node ∧ node.path = path
  pinnedClass : ∀ {id name}, id < s.graph.size →
    s.pinned.lookup (s.graph.get id).path = some name →
    (s.graph.get id).enclosing = none ∧ (s.graph.get id).name = name
  declared : ∀ id, (s.graph.declaredNames id).Nodup ∧
    ∀ name ∈ s.graph.declaredNames id, name ∉ s.graph.scopeNames id

/-- How a new class is placed: under its pinned name at the top level, under a name that is free
there, or in a class in which its name is free. -/
inductive BuildState.Placed (s : BuildState) (path name : String) (referencing : Option ClassId) :
    Option ClassId → ReservedNames → Prop
  | pinned (found : s.pinned.lookup path = some name) :
      Placed s path name referencing none s.reserved
  | topLevel (unpinned : s.pinned.lookup path = none)
      (free : s.reserved.lookup name = none ∨ s.reserved.lookup name = some path) :
      Placed s path name referencing none (setMember name path s.reserved)
  | nested {referrer scope : ClassId} (unpinned : s.pinned.lookup path = none)
      (refers : referencing = some referrer)
      (beside : scope = referrer ∨ (s.graph.get referrer).enclosing = some scope)
      (free : s.graph.isFreeIn scope name) :
      Placed s path name referencing (some scope) s.reserved

/-- A name is taken for one path only. -/
theorem reserve_eq_ok {names reserved : ReservedNames} {name path : String}
    (h : reserve names name path = .ok reserved) :
    (names.lookup name = none ∨ names.lookup name = some path) ∧
      reserved = setMember name path names := by
  unfold reserve at h
  split at h
  · rename_i owner found
    split at h
    · rename_i eq
      cases h
      exact ⟨.inr (eq ▸ found), rfl⟩
    · cases h
  · rename_i free
    cases h
    exact ⟨.inl free, rfl⟩

namespace BuildState

variable {s s' : BuildState} {root : Node}

/-- A class stands at the top level or beside the class that refers to it if its name is free there,
and else in that class. -/
theorem placed_of_place {path name : String} {referencing enclosing : Option ClassId}
    {reserved : ReservedNames} (unpinned : s.pinned.lookup path = none)
    (h : place s.graph s.reserved name path referencing = .ok (enclosing, reserved)) :
    s.Placed path name referencing enclosing reserved := by
  cases referencing with
  | none =>
    obtain ⟨taken, htaken, h⟩ := Except.bind_eq_ok_iff.1 h
    cases h
    obtain ⟨free, rfl⟩ := reserve_eq_ok htaken
    exact .topLevel unpinned free
  | some referrer =>
    unfold place at h
    simp only at h
    split at h
    · split at h
      · rename_i free
        cases h
        exact .topLevel unpinned (.inl (by simpa using free))
      · split at h
        · rename_i free
          cases h
          exact .nested unpinned rfl (.inl rfl) free
        · cases h
    · rename_i outer around
      split at h
      · rename_i free
        cases h
        exact .nested unpinned rfl (.inr around) free
      · split at h
        · rename_i free
          cases h
          exact .nested unpinned rfl (.inl rfl) free
        · cases h

/-- A class with a pinned name stands at the top level; any other one is placed by its name. -/
theorem placed_of_placement {node : Node} {fallback name : String}
    {referencing enclosing : Option ClassId} {reserved : ReservedNames}
    (h : s.placement node fallback referencing = .ok (name, enclosing, reserved)) :
    s.Placed node.path name referencing enclosing reserved := by
  unfold placement at h
  split at h
  · rename_i found
    cases h
    exact .pinned found
  · rename_i unpinned
    obtain ⟨given, -, h⟩ := Except.bind_eq_ok_iff.1 h
    obtain ⟨⟨scope, names⟩, placed, h⟩ := Except.bind_eq_ok_iff.1 h
    cases h
    exact placed_of_place unpinned placed

namespace Names

/-- No names change when a step keeps the shape of the state and the enums. -/
theorem of_sameShape (h : s.Names root) (same : SameShape s s')
    (enums : ∀ id, (s'.graph.get id).enums = (s.graph.get id).enums) : s'.Names root := by
  have name (id : ClassId) := (same.declaration id).name
  have enclosing (id : ClassId) := (same.declaration id).enclosing
  have path (id : ClassId) := (same.declaration id).path
  refine ⟨fun {id} inside top => ?_, fun {path' name'} found => ?_, fun {path' name'} found => ?_,
    fun {id name'} inside found => ?_, fun id => ?_⟩
  · rw [same.size] at inside
    rw [enclosing] at top
    rw [same.reserved, name, path]
    exact h.reserved inside top
  · rw [same.pinned] at found
    rw [same.reserved]
    exact h.pinned found
  · rw [same.pinned] at found
    exact h.keyed found
  · rw [same.size] at inside
    rw [same.pinned, path] at found
    rw [enclosing, name]
    exact h.pinnedClass inside found
  · have declared : s'.graph.declaredNames id = s.graph.declaredNames id := by
      simp only [ClassGraph.declaredNames, same.nested, enums, name]
    have scope : s'.graph.scopeNames id = s.graph.scopeNames id := by
      simp only [ClassGraph.scopeNames, ClassGraph.enclosing_congr same.size enclosing, name]
    rw [declared, scope]
    exact h.declared id

/-- Taking a free name for a path keeps the names that are taken. -/
theorem reserve (h : s.Names root) {name path : String}
    (free : s.reserved.lookup name = none ∨ s.reserved.lookup name = some path) :
    Names root { s with reserved := setMember name path s.reserved } := by
  have keep {name' path' : String} (taken : s.reserved.lookup name' = some path') :
      (setMember name path s.reserved).lookup name' = some path' := by
    rw [lookup_setMember]
    split
    · rename_i eq
      rw [← eq, taken] at free
      rcases free with free | free
      · cases free
      · exact free.symm
    · exact taken
  exact ⟨fun inside top => keep (h.reserved inside top), fun found => keep (h.pinned found),
    h.keyed, h.pinnedClass, h.declared⟩

section

variable {model : ClassModel} {id : ClassId}

/-- One more name is declared in a class, which is free there. -/
theorem declared_of_perm {names names' scope : List String} {name : String}
    (h : names.Nodup ∧ ∀ other ∈ names, other ∉ scope) (free : name ∉ scope ∧ name ∉ names)
    (perm : names'.Perm (name :: names)) : names'.Nodup ∧ ∀ other ∈ names', other ∉ scope := by
  refine ⟨perm.nodup_iff.2 (List.nodup_cons.2 ⟨free.2, h.1⟩), fun other mem => ?_⟩
  rcases List.mem_cons.1 (perm.mem_iff.1 mem) with rfl | mem
  · exact free.1
  · exact h.2 other mem

/-- The names around the classes from before do not change when a class is declared. -/
theorem scopeNames_declare (nesting : s.Nesting)
    (inside : ∀ outer ∈ model.enclosing, outer < s.graph.size) (nested : model.nested = [])
    (lt : id < s.graph.size) :
    (s.declare model).graph.scopeNames id = s.graph.scopeNames id := by
  unfold ClassGraph.scopeNames
  rw [nesting.enclosing_declare inside nested lt]
  refine List.map_congr_left fun outer mem => ?_
  have ltOuter : outer < s.graph.size := by
    rcases List.mem_cons.1 mem with rfl | mem
    · exact lt
    · exact ClassGraph.lt_size_of_mem_enclosing nesting.founded mem
  rw [s.declare_get_of_ne inside (Nat.ne_of_lt ltOuter)]

/-- One name is added where the new class is declared, and none elsewhere. -/
theorem declaredNames_declare (nesting : s.Nesting)
    (inside : ∀ outer ∈ model.enclosing, outer < s.graph.size) (lt : id < s.graph.size) :
    ((s.declare model).graph.declaredNames id).Perm
      ((if model.enclosing = some id then [model.name] else []) ++ s.graph.declaredNames id) := by
  have names (inner : ClassId) (mem : inner ∈ (s.graph.get id).nested) :
      ((s.declare model).graph.get inner).name = (s.graph.get inner).name := by
    have ltInner := Nesting.lt_size_of_enclosing (nesting.enclosing_of_mem_nested mem)
    rw [s.declare_get_of_ne inside (Nat.ne_of_lt ltInner)]
  have self := s.declare_get_size inside
  unfold ClassGraph.declaredNames
  rw [s.declare_get_of_ne inside (Nat.ne_of_lt lt)]
  simp only [List.map_append, List.map_congr_left names]
  split
  · simp only [List.map_cons, List.map_nil, self, List.append_assoc]
    exact List.perm_middle
  · simp

/-- Nothing is declared in a class that is new or does not exist. -/
theorem declaredNames_declare_of_le (inside : ∀ outer ∈ model.enclosing, outer < s.graph.size)
    (nested : model.nested = []) (enums : model.enums = []) (le : s.graph.size ≤ id) :
    (s.declare model).graph.declaredNames id = [] := by
  have blank : ((s.declare model).graph.get id).nested = [] ∧
      ((s.declare model).graph.get id).enums = [] := by
    rcases Nat.eq_or_lt_of_le le with rfl | lt
    · rw [s.declare_get_size inside]
      exact ⟨nested, enums⟩
    · rw [ClassGraph.get_of_size_le (by simpa using Nat.succ_le_of_lt lt)]
      exact ⟨rfl, rfl⟩
  simp [ClassGraph.declaredNames, blank]

end

/-- A class is declared under a name that has been taken for it or is free where it is declared. -/
theorem declare (h : s.Names root) (nesting : s.Nesting) {model : ClassModel}
    (inside : ∀ outer ∈ model.enclosing, outer < s.graph.size)
    (nested : model.nested = []) (enums : model.enums = [])
    (taken : model.enclosing = none → s.reserved.lookup model.name = some model.path)
    (pinned : ∀ name, s.pinned.lookup model.path = some name →
      model.enclosing = none ∧ model.name = name)
    (free : ∀ outer, model.enclosing = some outer → s.graph.isFreeIn outer model.name) :
    (s.declare model).Names root := by
  have self := s.declare_get_size inside
  have same {id : ClassId} (ne : id ≠ s.graph.size) := (s.declare_same inside ne).1
  refine ⟨fun {id} lt top => ?_, h.pinned, h.keyed, fun {id name} lt found => ?_, fun id => ?_⟩
  · by_cases ne : id = s.graph.size
    · subst ne
      rw [self] at top ⊢
      exact taken top
    · rw [(same ne).enclosing] at top
      rw [(same ne).name, (same ne).path]
      exact h.reserved (s.lt_size_of_lt_declare_size lt ne) top
  · by_cases ne : id = s.graph.size
    · subst ne
      rw [self] at found ⊢
      exact pinned name found
    · rw [(same ne).path] at found
      rw [(same ne).enclosing, (same ne).name]
      exact h.pinnedClass (s.lt_size_of_lt_declare_size lt ne) found
  · rcases Nat.lt_or_ge id s.graph.size with lt | ge
    · have perm := declaredNames_declare nesting inside lt
      rw [scopeNames_declare nesting inside nested lt]
      by_cases around : model.enclosing = some id
      · rw [if_pos around] at perm
        exact declared_of_perm (h.declared id) (ClassGraph.isFreeIn_iff.1 (free id around)) perm
      · rw [if_neg around] at perm
        obtain ⟨nodup, apart⟩ := h.declared id
        exact ⟨perm.nodup_iff.2 nodup, fun name mem => apart name (perm.mem_iff.1 mem)⟩
    · rw [declaredNames_declare_of_le inside nested enums ge]
      exact ⟨List.nodup_nil, fun _ mem => by cases mem⟩

/-- An enum is declared under a name that is free in its class. -/
theorem enum (h : s.Names root) {owner : ClassId} {definition : EnumDef}
    (inside : owner < s.graph.size) (free : s.graph.isFreeIn owner definition.name) :
    (s.change owner fun model => { model with
      enums := model.enums ++ [definition] }).Names root := by
  have same : SameShape s (s.change owner fun model => { model with
      enums := model.enums ++ [definition] }) := .enum inside
  have name (id : ClassId) := (same.declaration id).name
  have enclosing (id : ClassId) := (same.declaration id).enclosing
  have scope (id : ClassId) : (s.change owner fun model => { model with
      enums := model.enums ++ [definition] }).graph.scopeNames id = s.graph.scopeNames id := by
    simp only [ClassGraph.scopeNames, ClassGraph.enclosing_congr same.size enclosing, name]
  refine ⟨fun {id} inside top => ?_, h.pinned, h.keyed, fun {id name'} inside found => ?_,
    fun id => ?_⟩
  · rw [same.size] at inside
    rw [enclosing] at top
    rw [name, (same.declaration id).path]
    exact h.reserved inside top
  · rw [same.size] at inside
    rw [(same.declaration id).path] at found
    rw [enclosing, name]
    exact h.pinnedClass inside found
  · rw [scope]
    by_cases eq : id = owner
    · subst eq
      have perm : ((s.change id fun model => { model with
          enums := model.enums ++ [definition] }).graph.declaredNames id).Perm
          (definition.name :: s.graph.declaredNames id) := by
        unfold ClassGraph.declaredNames
        simp only [name, s.change_get_self inside, List.map_append, List.map_cons, List.map_nil,
          ← List.append_assoc]
        exact List.perm_append_singleton _ _
      exact declared_of_perm (h.declared id) (ClassGraph.isFreeIn_iff.1 free) perm
    · have unchanged : (s.change owner fun model => { model with
          enums := model.enums ++ [definition] }).graph.declaredNames id =
          s.graph.declaredNames id := by
        simp only [ClassGraph.declaredNames, name, s.change_get_of_ne eq]
      rw [unchanged]
      exact h.declared id

end Names

end BuildState

/-- Every step keeps names distinct. -/
theorem Step.names {source : Source} {floor : ClassId} {s s' : BuildState}
    (distinct : source.root.value.distinctKeys) (top : source.root.path = "")
    (step : Step source floor s s') (h : s.Names source.root) (nesting : s.Nesting) :
    s'.Names source.root := by
  cases step with
  | progress inProgress => exact h.of_sameShape (.progress s inProgress) fun _ => rfl
  | @declare node _ name referencing enclosing reserved _ _ _ _ placed inside =>
    obtain ⟨owners, eq⟩ := s.begin_eq reserved (blankClass source node name enclosing) referencing
    have placed := BuildState.placed_of_placement placed
    have declared : ({ s with reserved }.declare
        (blankClass source node name enclosing)).Names source.root := by
      cases placed with
      | pinned found =>
        refine h.declare nesting (fun _ none => by cases none) rfl rfl (fun _ => h.pinned found)
          (fun name' found' => ⟨rfl, ?_⟩) fun _ none => by cases none
        exact Option.some.inj (found.symm.trans found')
      | topLevel unpinned free =>
        have nesting' : BuildState.Nesting { s with
            reserved := setMember name node.path s.reserved } := nesting.congr rfl rfl
        refine (h.reserve free).declare nesting' (fun _ none => by cases none) rfl rfl (fun _ => ?_)
          (fun name' found' => ?_) fun _ none => by cases none
        · exact (lookup_setMember _ _ _ _).trans (if_pos rfl)
        · exact absurd (unpinned.symm.trans found') (by simp)
      | nested unpinned _ _ free =>
        refine h.declare nesting inside rfl rfl (fun none => by cases none)
          (fun name' found' => ?_) fun outer around => ?_
        · exact absurd (unpinned.symm.trans found') (by simp)
        · cases around
          exact free
    rw [eq]
    exact ⟨declared.reserved, declared.pinned, declared.keyed, declared.pinnedClass,
      declared.declared⟩
  | @variant choice alternative base name _ active _ _ isAlternative _ free =>
    have inside := active.inside
    refine h.declare nesting (by simpa [variantClass]) rfl rfl (fun none => by cases none)
      (fun name' found => ?_) fun outer around => ?_
    · obtain ⟨node, keyed, path⟩ := h.keyed found
      exact absurd path (keyed.path_ne distinct top isAlternative)
    · cases around
      exact free
  | @fill id f _ active filling =>
    have inside := active.inside
    refine h.of_sameShape (.fill inside filling) fun other => ?_
    by_cases eq : other = id
    · subst eq
      rw [s.change_get_self inside]
      exact filling.sameDeclaration.2.2.1
    · rw [s.change_get_of_ne eq]
  | enum active _ _ free => exact h.enum active.inside free

end SchemaClasses
