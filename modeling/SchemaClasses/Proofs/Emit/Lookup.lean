import SchemaClasses.Emit.Scope
import SchemaClasses.Proofs.Build.Run
import SchemaClasses.Proofs.Decidable
import SchemaClasses.Proofs.Text.Split

/-!
# Looking up the names of types

In Kotlin and Java, the first part of a dotted name in the body of a class is looked up among what
is declared in that class, in its superclasses, and then in each class around it and the
superclasses of that one; at last it is a class at the top level. Each other part is looked up in
what the part before it leads to. A name that is written for a class or an enum leads back to it.

## Main definitions

* `Entity`: a class or an enum.
* `Context.lookup`: what a dotted name leads to.
* `Context.NameResolves`: how the name of a class or an enum may come out.

## Main statements

* `Context.mem_visibleClasses_iff`: the classes that are checked are those that are searched.
* `BuildState.Sound.descend_entityNames`: the parts of a name lead to what they are the names of.
* `Run.entityName_resolves`: the names that are written lead to what they are written for.
-/

namespace SchemaClasses

inductive Entity where
  | ofClass (id : ClassId)
  | ofEnum (definition : EnumDef)

namespace ClassGraph

def Contains (graph : ClassGraph) : Entity → Prop
  | .ofClass id => id < graph.size
  | .ofEnum definition => ∃ id, definition ∈ (graph.get id).enums

def outermost (graph : ClassGraph) : Entity → ClassId
  | .ofClass id => graph.topLevel id
  | .ofEnum definition => graph.topLevel definition.owner

/-- The names of the classes around a class or an enum, outermost first, and its own. -/
def entityNames (graph : ClassGraph) : Entity → List String
  | .ofClass id => graph.nameChain id
  | .ofEnum definition => graph.nameChain definition.owner ++ [definition.name]

def member? (graph : ClassGraph) (id : ClassId) (name : String) : Option Entity :=
  match (graph.get id).nested.find? fun inner => (graph.get inner).name = name with
  | some inner => some (.ofClass inner)
  | none => ((graph.get id).enums.find? (·.name = name)).map .ofEnum

def topLevelNamed? (graph : ClassGraph) (name : String) : Option ClassId :=
  (List.range graph.size).find? fun id =>
    (graph.get id).enclosing.isNone && (graph.get id).name = name

/-- What names lead to from a class or an enum, each of which is declared in the one before it. -/
def descend (graph : ClassGraph) : Entity → List String → Option Entity
  | entity, [] => some entity
  | .ofClass id, name :: rest => (graph.member? id name).bind (graph.descend · rest)
  | .ofEnum _, _ :: _ => none

end ClassGraph

namespace Context

def superclasses (context : Context) : Nat → Option ClassId → List ClassId
  | 0, _ => []
  | _, none => []
  | fuel + 1, some id => id :: context.superclasses fuel (context.superclass? id)

/-- The classes in which a simple name is looked up, in this order: the class in whose body it
stands and its superclasses, and then each class around it and the superclasses of that one. -/
def searchedClasses (context : Context) : List ClassId :=
  match context.body with
  | none => []
  | some scope => (scope :: context.graph.enclosing scope).flatMap fun outer =>
      context.superclasses context.graph.size (some outer)

def lookupSimple (context : Context) (name : String) : Option Entity :=
  match context.searchedClasses.findSome? (context.graph.member? · name) with
  | some entity => some entity
  | none => (context.graph.topLevelNamed? name).map .ofClass

def lookup (context : Context) (text : String) : Option Entity :=
  match (Text.splitAt '.' text.toList).map String.ofList with
  | [] => none
  | first :: rest => (context.lookupSimple first).bind (context.graph.descend · rest)

def entityName (context : Context) : Entity → Emit String
  | .ofClass id => context.classTypeName id
  | .ofEnum definition => context.enumTypeName definition

/-- Whether the name of the outermost class around a class or an enum leads to something else. -/
def Hides (context : Context) (entity : Entity) : Prop :=
  context.lookupSimple (context.graph.get (context.graph.outermost entity)).name ≠
    some (.ofClass (context.graph.outermost entity))

/-- How the name of a class or an enum in a package may come out: it leads to the class or the enum,
or it stands after the package because its first part leads to something else. Without a package
there is no name then. -/
inductive NameResolves (context : Context) (package : Value) (entity : Entity) :
    EStateM.Result Failure Requirements String → Prop
  | plain {needs : Requirements}
      (found : context.lookup (".".intercalate (context.graph.entityNames entity)) = some entity) :
      NameResolves context package entity
        (.ok (".".intercalate (context.graph.entityNames entity)) needs)
  | packaged {needs : Requirements} (hidden : context.Hides entity)
      (hasPackage : package.isTruthy) :
      NameResolves context package entity
        (.ok (package.plain ++ "." ++ ".".intercalate (context.graph.entityNames entity)) needs)
  | fails {construct : String} {needs : Requirements} (hidden : context.Hides entity)
      (noPackage : ¬package.isTruthy) :
      NameResolves context package entity
        (.error (.unsupportedTarget context.language.name construct) needs)

/-! ## The classes that are searched -/

variable {context : Context}

theorem canExtend_eq (notPython : context.language ≠ .python) (id base : ClassId) :
    context.canExtend id base = context.canExtend 0 base := by
  unfold canExtend
  split
  · rfl
  · rfl
  · exact absurd ‹_› notPython

theorem superclass?_eq (notPython : context.language ≠ .python) (id : ClassId) :
    context.superclass? id = (context.graph.get id).base.filter (context.canExtend 0) := by
  unfold superclass?
  rw [funext fun base => canExtend_eq notPython id base]

/-- The superclasses of a class are a chain in the graph. -/
theorem superclasses_eq (notPython : context.language ≠ .python) (fuel : Nat)
    (start : Option ClassId) : context.superclasses fuel start =
      context.graph.chainFrom (fun model => model.base.filter (context.canExtend 0)) fuel start := by
  induction fuel generalizing start with
  | zero => rfl
  | succ fuel ih =>
    cases start with
    | none => rfl
    | some id => rw [superclasses, ClassGraph.chainFrom, ih, superclass?_eq notPython]

def HoldsSuperclasses (context : Context) (classes : List ClassId) : Prop :=
  ∀ id ∈ classes, ∀ base, context.superclass? id = some base → base ∈ classes

/-- In Kotlin and Java the superclasses of a class are those of the graph. -/
theorem holdsSuperclasses_superclasses (notPython : context.language ≠ .python)
    (founded : context.graph.Founded (·.base)) {id : ClassId} (inside : id < context.graph.size) :
    context.HoldsSuperclasses (context.superclasses context.graph.size (some id)) := by
  intro other mem base found
  rw [superclasses_eq notPython] at mem ⊢
  rw [superclass?_eq notPython] at found
  have chain : context.graph.Founded fun model => model.base.filter (context.canExtend 0) :=
    founded.mono fun found => (Option.filter_eq_some_iff.1 found).1
  exact chain.mem_chainFrom_next inside mem found

/-- The superclasses that are found from a known class on are known. -/
theorem HoldsSuperclasses.mem {seen : List ClassId} (h : context.HoldsSuperclasses seen)
    {fuel : Nat} {id other : ClassId} (known : id ∈ seen)
    (mem : other ∈ context.superclasses fuel (some id)) : other ∈ seen := by
  induction fuel generalizing id with
  | zero => cases mem
  | succ fuel ih =>
    rcases List.mem_cons.1 mem with rfl | mem
    · exact known
    · cases next : context.superclass? id with
      | none =>
        rw [next] at mem
        cases fuel <;> cases mem
      | some base =>
        rw [next] at mem
        exact ih (h id known base next) mem

/-- Going through the superclasses of a class stops at one that has been seen, whose superclasses
have been seen, too. -/
theorem mem_withSuperclasses_iff {seen : List ClassId} {fuel : Nat} {start : Option ClassId}
    (onward : ∀ id ∈ seen, ∀ base, context.superclass? id = some base →
      base ∈ seen ∨ start = some base) {other : ClassId} :
    other ∈ context.withSuperclasses fuel seen start ↔
      other ∈ seen ∨ other ∈ context.superclasses fuel start := by
  induction fuel generalizing seen start with
  | zero => simp [withSuperclasses, superclasses]
  | succ fuel ih =>
    cases start with
    | none => simp [withSuperclasses, superclasses]
    | some id =>
      unfold withSuperclasses
      split
      · rename_i known
        have known : id ∈ seen := by simpa using known
        have holds : context.HoldsSuperclasses seen := fun other mem base found =>
          (onward other mem base found).elim (fun mem => mem) fun eq => Option.some.inj eq ▸ known
        exact ⟨.inl, fun mem => mem.elim (fun mem => mem) (holds.mem known)⟩
      · rw [ih, superclasses, List.mem_append, List.mem_singleton, List.mem_cons, or_assoc]
        intro other mem base found
        rcases List.mem_append.1 mem with old | new
        · refine .inl ?_
          rcases onward other old base found with mem | eq
          · exact List.mem_append_left _ mem
          · exact List.mem_append_right _ (List.mem_singleton.2 (Option.some.inj eq).symm)
        · obtain rfl := List.mem_singleton.1 new
          exact .inr found

/-- Adding the superclasses of a class leaves none out. -/
theorem holdsSuperclasses_withSuperclasses (notPython : context.language ≠ .python)
    (founded : context.graph.Founded (·.base)) {seen : List ClassId}
    (h : context.HoldsSuperclasses seen) {id : ClassId} (inside : id < context.graph.size) :
    context.HoldsSuperclasses
      (context.withSuperclasses context.graph.size seen (some id)) := by
  intro other mem base found
  rw [mem_withSuperclasses_iff fun other mem base found => .inl (h other mem base found)] at mem ⊢
  exact mem.imp (fun mem => h other mem base found)
    fun mem => holdsSuperclasses_superclasses notPython founded inside other mem base found

/-- The classes whose members are checked are those in which a name is looked up. -/
theorem mem_visibleClasses_iff (notPython : context.language ≠ .python)
    (bases : context.graph.Founded (·.base)) (nesting : context.graph.Founded (·.enclosing))
    (inside : ∀ scope ∈ context.body, scope < context.graph.size) {other : ClassId} :
    other ∈ context.visibleClasses ↔ other ∈ context.searchedClasses := by
  have visit (outers : List ClassId) (inside : ∀ outer ∈ outers, outer < context.graph.size)
      (seen : List ClassId) (h : context.HoldsSuperclasses seen) :
      other ∈ outers.foldl (fun seen outer =>
          context.withSuperclasses context.graph.size seen (some outer)) seen ↔
        other ∈ seen ∨ other ∈ outers.flatMap fun outer =>
          context.superclasses context.graph.size (some outer) := by
    induction outers generalizing seen with
    | nil => simp
    | cons outer rest ih =>
      obtain ⟨first, others⟩ := List.forall_mem_cons.1 inside
      rw [List.foldl_cons, List.flatMap_cons, List.mem_append,
        ih others _ (holdsSuperclasses_withSuperclasses notPython bases h first),
        mem_withSuperclasses_iff fun other mem base found => .inl (h other mem base found), or_assoc]
  unfold visibleClasses searchedClasses
  cases hbody : context.body with
  | none => rfl
  | some scope =>
    cases hlanguage : context.language with
    | python => exact absurd hlanguage notPython
    | _ =>
      simp only
      rw [visit _ _ [] fun _ mem => by cases mem]
      · simp
      · intro outer mem
        rcases List.mem_cons.1 mem with rfl | mem
        · exact inside outer hbody
        · exact ClassGraph.lt_size_of_mem_enclosing nesting mem

end Context

/-! ## What names lead to -/

/-- An element of a list is found by what distinguishes the elements. -/
theorem find?_eq_of_nodup {α : Type} {f : α → String} {as : List α} (nodup : (as.map f).Nodup)
    {a : α} (mem : a ∈ as) : (as.find? fun other => f other = f a) = some a := by
  induction as with
  | nil => cases mem
  | cons first rest ih =>
    obtain ⟨apart, nodup⟩ := List.nodup_cons.1 nodup
    rcases List.mem_cons.1 mem with rfl | mem
    · simp
    · rw [List.find?_cons_of_neg, ih nodup mem]
      have ne : f first ≠ f a := fun eq => apart (eq ▸ List.mem_map_of_mem mem)
      simpa using ne

theorem ClassGraph.descend_append {graph : ClassGraph} (entity : Entity) (names rest : List String) :
    graph.descend entity (names ++ rest) =
      (graph.descend entity names).bind (graph.descend · rest) := by
  induction names generalizing entity with
  | nil => rfl
  | cons name names ih =>
    cases entity with
    | ofEnum definition => rfl
    | ofClass id =>
      rw [List.cons_append, descend, descend, Option.bind_assoc]
      exact congrArg _ (funext ih)

namespace BuildState.Sound

variable {source : Source} {s : BuildState}

/-- A class is found in the class around it. -/
theorem member?_nested (h : s.Sound source) {inner outer : ClassId}
    (around : (s.graph.get inner).enclosing = some outer) :
    s.graph.member? outer (s.graph.get inner).name = some (.ofClass inner) := by
  obtain ⟨names, -⟩ := h.names.declared outer
  unfold ClassGraph.member?
  rw [find?_eq_of_nodup (List.nodup_append.1 names).1 (h.nesting.mem_nested_iff.2 around)]

/-- An enum is found in the class that declares it. -/
theorem member?_enum (h : s.Sound source) {owner : ClassId} {definition : EnumDef}
    (mem : definition ∈ (s.graph.get owner).enums) :
    s.graph.member? owner definition.name = some (.ofEnum definition) := by
  obtain ⟨nodup, -⟩ := h.names.declared owner
  obtain ⟨-, enums, apart⟩ := List.nodup_append.1 nodup
  have none : ((s.graph.get owner).nested.find? fun inner =>
      (s.graph.get inner).name = definition.name) = none := by
    refine List.find?_eq_none.2 fun inner hinner => ?_
    have ne := apart _ (List.mem_map_of_mem hinner) _ (List.mem_map_of_mem mem)
    simpa using ne
  unfold ClassGraph.member?
  rw [none, find?_eq_of_nodup enums mem]
  rfl

/-- What is found in a class is not at the top level. -/
theorem member?_ne (h : s.Sound source) {scope id : ClassId} {name : String}
    (top : (s.graph.get id).enclosing = none) :
    s.graph.member? scope name ≠ some (.ofClass id) := by
  unfold ClassGraph.member?
  split
  · rename_i inner found
    intro eq
    obtain rfl := Entity.ofClass.inj (Option.some.inj eq)
    have around := h.nesting.enclosing_of_mem_nested (List.mem_of_find?_eq_some found)
    rw [top] at around
    cases around
  · intro eq
    obtain ⟨definition, -, eq⟩ := Option.map_eq_some_iff.1 eq
    cases eq

/-- A class at the top level is found by its name. -/
theorem topLevelNamed?_eq (h : s.Sound source) {id : ClassId} (inside : id < s.graph.size)
    (top : (s.graph.get id).enclosing = none) :
    s.graph.topLevelNamed? (s.graph.get id).name = some id := by
  have isTop : (s.graph.get id).enclosing.isNone && (s.graph.get id).name = (s.graph.get id).name :=
    by simp [top]
  cases found : s.graph.topLevelNamed? (s.graph.get id).name with
  | none =>
    have absent := List.find?_eq_none.1 found id (List.mem_range.2 inside)
    exact absurd isTop absent
  | some other =>
    have lt := List.mem_range.1 (List.mem_of_find?_eq_some found)
    obtain ⟨outermost, name⟩ : (s.graph.get other).enclosing = none ∧
        (s.graph.get other).name = (s.graph.get id).name := by
      simpa using List.find?_some found
    rw [List.inj_on_of_nodup_map h.nodup_topLevel (h.nesting.mem_topLevel_iff.2 ⟨lt, outermost⟩)
      (h.nesting.mem_topLevel_iff.2 ⟨inside, top⟩) name]

/-- The names of a class lead to it from the outermost class around it. -/
theorem descend_nameChain (h : s.Sound source) {id : ClassId} (inside : id < s.graph.size) :
    ∃ inner, s.graph.nameChain id = (s.graph.get (s.graph.topLevel id)).name :: inner ∧
      s.graph.descend (.ofClass (s.graph.topLevel id)) inner = some (.ofClass id) := by
  induction id using Nat.strongRecOn with
  | ind id ih =>
    rw [ClassGraph.nameChain_eq h.nesting.founded, ClassGraph.topLevel_eq h.nesting.founded]
    cases around : (s.graph.get id).enclosing with
    | none => exact ⟨[], rfl, rfl⟩
    | some outer =>
      have lt := h.nesting.enclosing_lt around
      obtain ⟨inner, chain, found⟩ := ih outer lt (Nat.lt_trans lt inside)
      refine ⟨inner ++ [(s.graph.get id).name], ?_, ?_⟩
      · rw [Option.elim_some, Option.elim_some, chain, List.cons_append]
      · rw [Option.elim_some, ClassGraph.descend_append, found, Option.bind_some,
          ClassGraph.descend, h.member?_nested around]
        rfl

/-- The names of a class or an enum lead to it from the outermost class around it. -/
theorem descend_entityNames (h : s.Sound source) {entity : Entity}
    (contained : s.graph.Contains entity) :
    ∃ inner, s.graph.entityNames entity =
        (s.graph.get (s.graph.outermost entity)).name :: inner ∧
      s.graph.descend (.ofClass (s.graph.outermost entity)) inner = some entity := by
  cases entity with
  | ofClass id => exact h.descend_nameChain contained
  | ofEnum definition =>
    obtain ⟨owner, mem⟩ := contained
    obtain ⟨rfl, -⟩ := h.outermost.enum mem
    obtain ⟨inner, chain, found⟩ := h.descend_nameChain (ClassGraph.lt_size_of_mem_enums mem)
    refine ⟨inner ++ [definition.name], ?_, ?_⟩
    · rw [ClassGraph.entityNames, chain]
      rfl
    · rw [ClassGraph.outermost, ClassGraph.descend_append, found, Option.bind_some,
        ClassGraph.descend, h.member?_enum mem]
      rfl

/-- The outermost class of an entity stands at the top level. -/
theorem outermost_contained (h : s.Sound source) {entity : Entity}
    (contained : s.graph.Contains entity) : s.graph.outermost entity < s.graph.size ∧
      (s.graph.get (s.graph.outermost entity)).enclosing = none := by
  cases entity with
  | ofClass id => exact h.nesting.topLevel_outermost contained
  | ofEnum definition =>
    obtain ⟨owner, mem⟩ := contained
    obtain ⟨rfl, -⟩ := h.outermost.enum mem
    exact h.nesting.topLevel_outermost (ClassGraph.lt_size_of_mem_enums mem)

/-- There are no dots in the names of classes and enums. -/
theorem dot_notMem_entityNames (h : s.Sound source) {entity : Entity}
    (contained : s.graph.Contains entity) {name : String}
    (mem : name ∈ s.graph.entityNames entity) : '.' ∉ name.toList := by
  have chain {id : ClassId} (inside : id < s.graph.size) (mem : name ∈ s.graph.nameChain id) :
      IsClassName name := by
    obtain ⟨outer, hmem, rfl⟩ := List.mem_map.1 mem
    refine h.outermost.name ?_
    rcases List.mem_append.1 hmem with around | self
    · exact ClassGraph.lt_size_of_mem_enclosing h.nesting.founded (List.mem_reverse.1 around)
    · exact List.mem_singleton.1 self ▸ inside
  cases entity with
  | ofClass id => exact (chain contained mem).dot_notMem
  | ofEnum definition =>
    obtain ⟨owner, declared⟩ := contained
    obtain ⟨rfl, named⟩ := h.outermost.enum declared
    rcases List.mem_append.1 mem with mem | mem
    · exact (chain (ClassGraph.lt_size_of_mem_enums declared) mem).dot_notMem
    · exact List.mem_singleton.1 mem ▸ named.dot_notMem

end BuildState.Sound

/-! ## The names of types -/

namespace Context

variable {context : Context} {entity : Entity}

/-- The name of an entity is that of its outermost class, followed by the names from there on. -/
theorem entityName_eq (context : Context) (entity : Entity) :
    context.entityName entity = context.qualify (context.graph.outermost entity)
      (context.graph.entityNames entity).tail := by
  cases entity with
  | ofClass id => rfl
  | ofEnum definition =>
    have nonempty : context.graph.nameChain definition.owner ≠ [] := by
      simp [ClassGraph.nameChain]
    rw [ClassGraph.entityNames, List.tail_append_of_ne_nil nonempty]
    rfl

/-- Outside Python a name that is hidden stands after the package. -/
theorem qualify_eq (notPython : context.language ≠ .python) (head : ClassId)
    (inner : List String) :
    context.qualify head inner =
      if !context.isHidden head then
        pure (".".intercalate ((context.graph.get head).name :: inner))
      else if (context.graph.get head).package.isTruthy then
        pure ((context.graph.get head).package.plain ++ "." ++
          ".".intercalate ((context.graph.get head).name :: inner))
      else Emit.unsupported context.language
        (".".intercalate ((context.graph.get head).name :: inner) ++
          " is hidden by a class nested in " ++
          (context.body.map context.graph.qualifiedName).getD "" ++ " and has no package") := by
  unfold qualify
  cases hlanguage : context.language with
  | python => exact absurd hlanguage notPython
  | _ => rfl

theorem getD_findSome?_iff {α β : Type} {f : α → Option β} {as : List α} :
    (as.findSome? fun a => (f a).map fun _ => true).getD false ↔ ∃ a ∈ as, (f a).isSome := by
  induction as with
  | nil => simp
  | cons a rest ih => cases found : f a <;> simp_all

/-- A class hides a class at the top level when anything is found in it under that name. -/
theorem hidesIn_eq {source : Source} {s : BuildState} (sound : s.Sound source) {head : ClassId}
    (top : (s.graph.get head).enclosing = none) (scope : ClassId) :
    hidesIn s.graph head scope =
      (s.graph.member? scope (s.graph.get head).name).map fun _ => true := by
  have ne : s.graph.member? scope (s.graph.get head).name ≠ some (.ofClass head) :=
    sound.member?_ne top
  unfold ClassGraph.member? at ne ⊢
  unfold hidesIn
  simp only
  cases found : (s.graph.get scope).nested.find? fun inner =>
      (s.graph.get inner).name = (s.graph.get head).name with
  | some inner =>
    rw [found] at ne
    have apart : inner ≠ head := fun eq => ne (eq ▸ rfl)
    simp [apart]
  | none =>
    cases declared : (s.graph.get scope).enums.find? (·.name = (s.graph.get head).name) with
    | some definition =>
      have any := List.any_eq_true.2 ⟨definition, List.mem_of_find?_eq_some declared,
        List.find?_some declared⟩
      simp [any]
    | none =>
      have none : (s.graph.get scope).enums.any (·.name = (s.graph.get head).name) = false := by
        simpa using declared
      simp [none]

/-- A name stands after the package when the name of the outermost class leads to something else. -/
theorem isHidden_iff {source : Source} {s : BuildState} (sound : s.Sound source)
    (graph : context.graph = s.graph) (notPython : context.language ≠ .python)
    (inside : ∀ scope ∈ context.body, scope < s.graph.size)
    (contained : s.graph.Contains entity) :
    context.isHidden (s.graph.outermost entity) ↔ context.Hides entity := by
  obtain ⟨lt, top⟩ := sound.outermost_contained contained
  have searched (other : ClassId) : other ∈ context.visibleClasses ↔
      other ∈ context.searchedClasses :=
    mem_visibleClasses_iff notPython (graph ▸ sound.composition.founded)
      (graph ▸ sound.nesting.founded) (graph ▸ inside)
  have hidden : context.isHidden (s.graph.outermost entity) ↔ ∃ scope ∈ context.searchedClasses,
      (s.graph.member? scope (s.graph.get (s.graph.outermost entity)).name).isSome := by
    unfold isHidden
    rw [graph, funext (hidesIn_eq sound top), getD_findSome?_iff]
    simp only [searched]
  rw [hidden]
  unfold Hides lookupSimple
  rw [graph]
  cases found : context.searchedClasses.findSome?
      (s.graph.member? · (s.graph.get (s.graph.outermost entity)).name) with
  | some other =>
    obtain ⟨scope, mem, member⟩ := List.exists_of_findSome?_eq_some found
    refine iff_of_true ⟨scope, mem, Option.isSome_of_eq_some member⟩ fun eq => ?_
    exact sound.member?_ne top (member.trans eq)
  | none =>
    rw [sound.topLevelNamed?_eq lt top]
    refine iff_of_false ?_ fun ne => ne rfl
    rintro ⟨scope, mem, member⟩
    rw [List.findSome?_eq_none_iff.1 found scope mem] at member
    cases member

/-- A name that is not hidden leads to what it is written for. -/
theorem lookup_entityNames {source : Source} {s : BuildState} (sound : s.Sound source)
    (graph : context.graph = s.graph) (contained : s.graph.Contains entity)
    (visible : ¬context.Hides entity) :
    context.lookup (".".intercalate (s.graph.entityNames entity)) = some entity := by
  obtain ⟨inner, names, found⟩ := sound.descend_entityNames contained
  have pieces := Text.splitAt_intercalate (names ▸ List.cons_ne_nil _ _)
    fun name mem => sound.dot_notMem_entityNames contained mem
  have first := not_not.1 visible
  rw [graph] at first
  unfold lookup
  rw [pieces, names]
  simp only
  rw [first, Option.bind_some, graph, found]

end Context

section

variable {document package : Value} {registered : List Definition}
  {returned : List (Definition × ClassId)} {succeeded : Bool} {s : BuildState} {context : Context}
  {entity : Entity}

/-- In Kotlin and Java, the names that are written for the classes and enums of a run lead to them
from where they are written. A name stands after the package only when it would lead to something
else, and there is none only when there is no package either. -/
theorem Run.entityName_resolves (distinct : document.distinctKeys)
    (run : Run ⟨.ofValue document, package⟩ registered returned succeeded s)
    (graph : context.graph = s.graph) (notPython : context.language ≠ .python)
    (inside : ∀ scope ∈ context.body, scope < s.graph.size)
    (contained : s.graph.Contains entity) (needs : Requirements) :
    context.NameResolves package entity (context.entityName entity needs) := by
  have invariant := run.invariant distinct rfl
  have sound := invariant.sound
  obtain ⟨lt, -⟩ := sound.outermost_contained contained
  have isPackage := invariant.packaged _ lt
  obtain ⟨inner, names, -⟩ := sound.descend_entityNames contained
  have hidden := Context.isHidden_iff sound graph notPython inside contained
  rw [Context.entityName_eq, Context.qualify_eq notPython, graph, isPackage, names, List.tail_cons,
    ← names, ← graph]
  rw [← graph] at hidden
  split
  · rename_i visible
    have shown : ¬context.Hides entity := fun hides => by simp [hidden.2 hides] at visible
    refine .plain ?_
    rw [graph]
    exact Context.lookup_entityNames sound graph contained shown
  · rename_i isHidden
    have hides := hidden.1 (by simpa using isHidden)
    split
    · rename_i hasPackage
      exact .packaged hides hasPackage
    · rename_i noPackage
      exact .fails hides noPackage

/-- A document in which a property has a class of its own whose name another class has at the top
level. -/
def hiddenAddress : Value := .object [
  ("title", .string "Person"),
  ("properties", .object [
    ("home", .object [("$ref", .string "#/definitions/Address")]),
    ("address", .object [("title", .string "Address"), ("properties", .object [
      ("street", .object [("type", .string "string")])])])]),
  ("definitions", .object [("Address", .object [("properties", .object [
    ("city", .object [("type", .string "string")])])])])]

theorem Run.entityName_resolves_hiddenAddress : ∃ id s,
    buildRoot ⟨.ofValue hiddenAddress, .string "shop"⟩ (.ofValue hiddenAddress) none {} =
      .ok id s ∧
    ∃ context : Context, context.graph = s.graph ∧ context.language = .java ∧
      context.body = some 0 ∧
      context.entityName (.ofClass 1) {} = .ok "shop.Address" {} ∧
      context.NameResolves (.string "shop") (.ofClass 1) (.ok "shop.Address" {}) ∧
      context.entityName (.ofClass 2) {} = .ok "Person.Address" {} ∧
      context.NameResolves (.string "shop") (.ofClass 2) (.ok "Person.Address" {}) := by
  let context (graph : ClassGraph) : Context :=
    { graph, settings := {}, language := .java, body := some 0 }
  have built : ((buildRoot ⟨.ofValue hiddenAddress, .string "shop"⟩ (.ofValue hiddenAddress) none >>=
      fun _ => get).run' {}).any fun s => s.graph.size == 3 &&
        (context s.graph).entityName (.ofClass 1) {} = .ok "shop.Address" {} &&
        (context s.graph).entityName (.ofClass 2) {} = .ok "Person.Address" {} := by
    decide +kernel
  obtain ⟨id, s, run, test⟩ := Build.exists_of_any built
  simp only [Bool.and_eq_true, beq_iff_eq, decide_eq_true_eq] at test
  obtain ⟨⟨size, outer⟩, inner⟩ := test
  have inside (id : ClassId) (lt : id < 3) : s.graph.Contains (.ofClass id) := by
    rwa [ClassGraph.Contains, size]
  have scope : ∀ scope ∈ (context s.graph).body, scope < s.graph.size := by
    intro scope mem
    obtain rfl := Option.some.inj mem
    simp [size]
  have resolves (id : ClassId) (lt : id < 3) := Run.entityName_resolves
    (by decide : hiddenAddress.distinctKeys) (.root run)
    (rfl : (context s.graph).graph = s.graph) (by simp [context]) scope (inside id lt) {}
  exact ⟨id, s, run, context s.graph, rfl, rfl, rfl, outer, outer ▸ resolves 1 (by decide), inner,
    inner ▸ resolves 2 (by decide)⟩

end

end SchemaClasses
