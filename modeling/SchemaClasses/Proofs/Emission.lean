import SchemaClasses.Proofs.Build.Accounted
import SchemaClasses.Proofs.Build.Sound
import SchemaClasses.Proofs.Decidable
import SchemaClasses.Proofs.Generation
import SchemaClasses.Proofs.Names.PascalCase
import SchemaClasses.Proofs.Output.Target

/-!
# The files of a request

A request that is rendered has one file for each class at the top level that belongs to one of the
selected members and is not ignored. The files of a member come after those of the members before
it, its own first. None takes the place of another one, and if all members are selected and no class
is ignored, then every class that a file names has its file.

## Main definitions

* `Settings.writes`: the names of classes that are not ignored.
* `ClassGraph.mentioned`: the classes that the file of a class names.
* `BuildState.written`: the classes that have files.
* `BuildState.Emits`: what the files of a request are.

## Main statements

* `files_of_renderClasses`: classes with distinct names have a file each.
* `render_emits`: what a request is rendered to.
-/

namespace SchemaClasses

/-! ## Writing classes -/

def Settings.writes (settings : Settings) (name : String) : Bool :=
  (settings.ignores name).toOption == some false

structure ClassGraph.IsFileOf (graph : ClassGraph) (settings : Settings)
    (language : TargetLanguage) (id : ClassId) (file : Target × String) : Prop where
  target : targetOf language settings (graph.get id).name = .ok file.1
  text : fileText graph settings language id = .ok file.2

structure Target.Apart (a b : Target) : Prop where
  notSame : ¬a.same b
  path : ∀ text, a.pathText = .ok text → b.pathText ≠ .ok text

theorem targetOf_name {language : TargetLanguage} {settings : Settings} {name : String}
    {target : Target} (found : targetOf language settings name = .ok target) :
    target.name = name := by
  obtain ⟨directories, -, eq⟩ := Except.bind_eq_ok_iff.1 found
  cases eq
  rfl

theorem Target.distinguishable_eq_ok {target target' : Target}
    (h : target.distinguishable = .ok target') : target' = target := by
  unfold Target.distinguishable at h
  split at h
  · cases h
  · exact (Except.ok.inj h).symm

/-- The text of a new target is added at the end. -/
theorem setTarget_of_new {target : Target} {rendered : List (Target × String)}
    (new : ∀ file ∈ rendered, file.1.name ≠ target.name) (text : String) :
    setTarget target text rendered = rendered ++ [(target, text)] := by
  induction rendered with
  | nil => rfl
  | cons file rest ih =>
    obtain ⟨known, old⟩ := file
    obtain ⟨ne, new⟩ := List.forall_mem_cons.1 new
    have notSame : (known == target) = false := by
      change Target.same known target = false
      simp [Target.same, ne]
    rw [setTarget, notSame, ih new]
    rfl

section

variable {graph : ClassGraph} {settings : Settings} {language : TargetLanguage}
  {classes : List ClassId} {files : List (Target × String)}

/-- Classes with distinct names have a file each, but for those that are ignored. The induction is
on the classes that are left; none of the files so far has the name of one of them. -/
theorem files_of_renderClasses {rendered : List (Target × String)}
    (nodup : (classes.map fun id => (graph.get id).name).Nodup)
    (new : ∀ id ∈ classes, ∀ file ∈ rendered, file.1.name ≠ (graph.get id).name)
    (h : renderClasses graph settings language rendered classes = .ok files) :
    ∃ added, files = rendered ++ added ∧ List.Forall₂ (graph.IsFileOf settings language)
      (classes.filter fun id => settings.writes (graph.get id).name) added := by
  induction classes generalizing rendered with
  | nil =>
    cases h
    exact ⟨[], (List.append_nil _).symm, .nil⟩
  | cons id rest ih =>
    obtain ⟨apart, nodup⟩ := List.nodup_cons.1 nodup
    obtain ⟨newFirst, newRest⟩ := List.forall_mem_cons.1 new
    obtain ⟨ignored, hignored, h⟩ := Except.bind_eq_ok_iff.1 h
    have writes : settings.writes (graph.get id).name = !ignored := by
      rw [Settings.writes, hignored]
      cases ignored <;> rfl
    rw [List.filter_cons, writes]
    split at h
    · rename_i yes
      rw [yes]
      exact ih nodup newRest h
    · rename_i no
      obtain ⟨text, htext, h⟩ := Except.bind_eq_ok_iff.1 h
      obtain ⟨target, htarget, h⟩ := Except.bind_eq_ok_iff.1 h
      obtain ⟨target', same, h⟩ := Except.bind_eq_ok_iff.1 h
      have name := targetOf_name htarget
      rw [Target.distinguishable_eq_ok same, setTarget_of_new (by rwa [name])] at h
      have new' : ∀ other ∈ rest, ∀ file ∈ rendered ++ [(target, text)],
          file.1.name ≠ (graph.get other).name := by
        intro other mem file known
        rcases List.mem_append.1 known with known | known
        · exact newRest other mem file known
        · obtain rfl := List.mem_singleton.1 known
          rw [name]
          exact fun eq => apart (List.mem_map.2 ⟨other, mem, eq.symm⟩)
      obtain ⟨added, eq, files⟩ := ih nodup new' h
      refine ⟨(target, text) :: added, by simp [eq], ?_⟩
      rw [if_pos (by simpa using no)]
      exact .cons ⟨htarget, htext⟩ files

/-- Classes with different names have different files. -/
theorem ClassGraph.IsFileOf.apart {a b : ClassId} {fileA fileB : Target × String}
    (isFileA : graph.IsFileOf settings language a fileA)
    (isFileB : graph.IsFileOf settings language b fileB)
    (namedA : IsClassName (graph.get a).name) (namedB : IsClassName (graph.get b).name)
    (ne : (graph.get a).name ≠ (graph.get b).name) : fileA.1.Apart fileB.1 where
  notSame same := by
    simp only [Target.same, Bool.and_eq_true, decide_eq_true_eq] at same
    rw [targetOf_name isFileA.target, targetOf_name isFileB.target] at same
    exact ne same.1.1.1
  path _ found := targetOf_pathText_ne namedA.slash_notMem namedB.slash_notMem ne isFileA.target
    isFileB.target found

/-- Of the files of classes with distinct names no two are the same. -/
theorem pairwise_apart (isFileOf : List.Forall₂ (graph.IsFileOf settings language) classes files)
    (named : ∀ id ∈ classes, IsClassName (graph.get id).name)
    (nodup : (classes.map fun id => (graph.get id).name).Nodup) :
    files.Pairwise fun a b => a.1.Apart b.1 := by
  have length := isFileOf.length_eq
  refine List.pairwise_iff_getElem.2 fun i j hi hj lt => ?_
  rw [← length] at hi hj
  have ne := List.pairwise_iff_getElem.1 nodup i j (by simpa) (by simpa) lt
  rw [List.getElem_map, List.getElem_map] at ne
  exact (isFileOf.get hi (length ▸ hi)).apart (isFileOf.get hj (length ▸ hj))
    (named _ (List.getElem_mem _)) (named _ (List.getElem_mem _)) ne

end

/-! ## Named classes -/

/-- The classes that a type names. An enum stands for the class that it is declared in. -/
def TypeRef.mentioned : TypeRef → List ClassId
  | .ofClass id => [id]
  | .sequence item _ => item.mentioned
  | .map value => value.mentioned
  | .enum definition => [definition.owner]
  | .primitive .. | .undetermined | .absent => []

/-- The classes named in the declaration of a class: its base, and those in the types of its
properties, inherited ones included. -/
def ClassGraph.mentioned (graph : ClassGraph) (id : ClassId) : List ClassId :=
  (graph.get id).base.toList ++ (graph.allProperties id).flatMap (·.type.mentioned)

theorem TypeRef.Described.lt_size {root : Node} {size : Nat} {type : TypeRef}
    (h : type.Described root size) {id : ClassId} (mem : id ∈ type.mentioned) : id < size := by
  induction h with
  | primitive => cases mem
  | ofClass inside => exact List.mem_singleton.1 mem ▸ inside
  | sequence _ _ ih => exact ih mem
  | map _ ih => exact ih mem
  | enum inside => exact List.mem_singleton.1 mem ▸ inside

/-- The classes that are named exist. -/
theorem BuildState.Sound.lt_size_of_mem_mentioned {source : Source} {s : BuildState}
    (h : s.Sound source) (describes : s.Describes source.root {}) {id named : ClassId}
    (mem : named ∈ s.graph.mentioned id) : named < s.graph.size := by
  rcases List.mem_append.1 mem with base | mem
  · exact h.composition.founded.lt_size (Option.mem_toList.1 base)
  · obtain ⟨property, known, mem⟩ := List.mem_flatMap.1 mem
    obtain ⟨base, -, known⟩ := List.mem_flatMap.1 known
    exact (describes.properties base property known).type.lt_size mem

/-! ## What is written -/

namespace BuildState

structure IsClassOf (s : BuildState) (member : Definition) (id : ClassId) : Prop where
  top : id ∈ s.topLevel
  path : (s.graph.get id).path = member.node.path

/-- The classes that are written: those of the selected members, each followed by what belongs to
it, without the ignored ones. -/
def written (s : BuildState) (settings : Settings) (owners : List ClassId) : List ClassId :=
  (owners.flatMap s.owned).filter fun id => settings.writes (s.graph.get id).name

/-- What the files of a request are, given the members that it registers and the classes of the
selected ones. -/
structure Emits (s : BuildState) (settings : Settings) (language : TargetLanguage)
    (registered : List Definition) (owners : List ClassId) (files : List (Target × String)) :
    Prop where
  /-- The selected members have their classes at the top level. -/
  members : List.Forall₂ s.IsClassOf (registered.filter (·.selected)) owners
  /-- Every class that is written has its file, in the same order. -/
  written : List.Forall₂ (s.graph.IsFileOf settings language) (s.written settings owners) files
  /-- No file takes the place of another one. -/
  apart : files.Pairwise fun a b => a.1.Apart b.1
  /-- The top level consists of the classes that are in no other one, in order of creation. -/
  topLevel : ∀ id, id ∈ s.topLevel ↔ id < s.graph.size ∧ (s.graph.get id).enclosing = none
  order : s.topLevel.Pairwise (· < ·)
  /-- What belongs to a selected member besides its own class are classes of no members. -/
  inline : ∀ owner ∈ owners, ∀ id ∈ s.owned owner, id ≠ owner →
    id ∈ s.topLevel ∧ ∀ member ∈ registered, ¬s.IsClassOf member id
  /-- A class at the top level that is of no member belongs to exactly one other class, which is of
  a member. -/
  owner : ∀ id ∈ s.topLevel, (∀ member ∈ registered, ¬s.IsClassOf member id) →
    ∃ owner, (∃ member ∈ registered, s.IsClassOf member owner) ∧
      ∀ other, other ≠ id ∧ id ∈ s.owned other ↔ other = owner
  /-- If all members are selected and nothing is ignored, then the classes that are written are those
  at the top level, each once, and around every class that is named anywhere there is one of them. -/
  complete : (∀ member ∈ registered, member.selected) →
    (∀ id ∈ s.topLevel, settings.writes (s.graph.get id).name) →
    (s.written settings owners).Perm s.topLevel ∧
      ∀ id, ∀ named ∈ s.graph.mentioned id, s.graph.topLevel named ∈ s.written settings owners

end BuildState

/-! ## Members and their classes -/

section

variable {source : Source} {registered : List Definition}
  {returned : List (Definition × ClassId)} {s : BuildState} {id : ClassId}

/-- The members that a request registers are at different places. -/
theorem nodup_of_registered {request : Request} (distinct : source.root.value.distinctKeys)
    (found : request.registered source.root = .ok registered) :
    (registered.map (·.node.path)).Nodup := by
  cases request with
  | root name? =>
    cases found
    exact List.nodup_singleton _
  | members pointer include? =>
    obtain ⟨entries, hentries, rfl⟩ := Except.map_eq_ok_iff.1 found
    exact (keyed_of_definitions distinct hentries).2.sublist (List.filter_sublist.map _)

/-- The classes of different members are different. -/
theorem nodup_of_isClassOf {members : List Definition} {owners : List ClassId}
    (distinct : (members.map (·.node.path)).Nodup)
    (isClassOf : List.Forall₂ s.IsClassOf members owners) : owners.Nodup := by
  have paths : owners.map (fun id => (s.graph.get id).path) = members.map (·.node.path) := by
    clear distinct
    induction isClassOf with
    | nil => rfl
    | cons first _ ih => rw [List.map_cons, List.map_cons, first.path, ih]
  exact .of_map _ (paths ▸ distinct)

namespace RunInvariant

/-- The class of a member has its name pinned. -/
theorem isPinned_of_isClassOf (h : RunInvariant source registered returned true s)
    {member : Definition} (mem : member ∈ registered) (isClassOf : s.IsClassOf member id) :
    s.IsPinned id := by
  obtain ⟨name, -, pinned⟩ := (h.registration member mem).name
  refine ⟨(h.sound.nesting.mem_topLevel_iff.1 isClassOf.top).1, ?_⟩
  rw [isClassOf.path, pinned]
  rfl

/-- A class whose name is pinned is that of a member. -/
theorem exists_isClassOf (h : RunInvariant source registered returned true s)
    (isPinned : s.IsPinned id) : ∃ member ∈ registered, s.IsClassOf member id := by
  obtain ⟨member, mem, path⟩ := h.pinned rfl _ isPinned.2
  exact ⟨member, mem, h.sound.mem_topLevel_of_isPinned isPinned, path.symm⟩

theorem not_isPinned_iff (h : RunInvariant source registered returned true s) :
    ¬s.IsPinned id ↔ ∀ member ∈ registered, ¬s.IsClassOf member id := by
  constructor
  · exact fun inline member mem isClassOf => inline (h.isPinned_of_isClassOf mem isClassOf)
  · intro none isPinned
    obtain ⟨member, mem, isClassOf⟩ := h.exists_isClassOf isPinned
    exact none member mem isClassOf

/-- The classes returned for members are theirs. -/
theorem isClassOf_of_returned (h : RunInvariant source registered returned true s)
    {member : Definition} (mem : (member, id) ∈ returned) : s.IsClassOf member id := by
  obtain ⟨known, inside, path⟩ := h.results _ mem
  obtain ⟨name, -, pinned⟩ := (h.registration member known).name
  refine ⟨h.sound.mem_topLevel_of_isPinned ⟨inside, ?_⟩, path⟩
  rw [path, pinned]
  rfl

/-- A member has one class at the top level. -/
theorem eq_of_isClassOf (h : RunInvariant source registered returned true s) {member : Definition}
    (mem : member ∈ registered) {other : ClassId} (isClassOf : s.IsClassOf member id)
    (isClassOf' : s.IsClassOf member other) : id = other := by
  obtain ⟨name, -, pinned⟩ := (h.registration member mem).name
  have named {id : ClassId} (isClassOf : s.IsClassOf member id) : (s.graph.get id).name = name := by
    have inside := (h.sound.nesting.mem_topLevel_iff.1 isClassOf.top).1
    exact (h.sound.names.pinnedClass inside (isClassOf.path ▸ pinned)).2
  exact List.inj_on_of_nodup_map h.sound.nodup_topLevel isClassOf.top isClassOf'.top
    ((named isClassOf).trans (named isClassOf').symm)

section

variable {settings : Settings} {owners : List ClassId}
  (members : List.Forall₂ s.IsClassOf (registered.filter (·.selected)) owners)
include members

theorem isPinned_of_mem (h : RunInvariant source registered returned true s) :
    ∀ owner ∈ owners, s.IsPinned owner := by
  intro owner mem
  obtain ⟨i, inside, rfl⟩ := List.getElem_of_mem mem
  have isClassOf := members.get (members.length_eq ▸ inside) inside
  exact h.isPinned_of_isClassOf (List.mem_filter.1 (List.getElem_mem _)).1 isClassOf

/-- If all members are selected, then every class at the top level belongs to one of theirs. -/
theorem ownerOf_mem (h : RunInvariant source registered returned true s)
    (all : ∀ member ∈ registered, member.selected) (top : id ∈ s.topLevel) :
    s.ownerOf id ∈ owners := by
  obtain ⟨inside, outermost⟩ := h.sound.nesting.mem_topLevel_iff.1 top
  obtain ⟨member, mem, isClassOf⟩ :=
    h.exists_isClassOf (h.sound.outermost.isPinned_ownerOf inside outermost)
  obtain ⟨i, inside, rfl⟩ := List.getElem_of_mem (List.mem_filter.2 ⟨mem, all member mem⟩)
  have isClassOf' := members.get inside (members.length_eq ▸ inside)
  exact h.eq_of_isClassOf mem isClassOf isClassOf' ▸ List.getElem_mem _

/-- If nothing is left out, then the classes at the top level are written, each once. -/
theorem written_perm (h : RunInvariant source registered returned true s) (nodup : owners.Nodup)
    (all : ∀ member ∈ registered, member.selected)
    (writes : ∀ id ∈ s.topLevel, settings.writes (s.graph.get id).name) :
    (s.written settings owners).Perm s.topLevel := by
  have pinned := h.isPinned_of_mem members
  have topLevel : s.topLevel.Nodup := h.sound.outermost.order.imp Nat.ne_of_lt
  refine (List.perm_ext_iff_of_nodup ((h.sound.nodup_flatMap_owned pinned nodup).filter _)
    topLevel).2 fun id => ?_
  rw [List.mem_filter, h.sound.mem_flatMap_owned_iff pinned]
  exact ⟨fun written => written.1.1, fun top => ⟨⟨top, h.ownerOf_mem members all top⟩, writes id top⟩⟩

end

end RunInvariant

end

/-! ## Requests -/

section

variable {source : Source} {settings : Settings} {language : TargetLanguage}
  {registered : List Definition} {returned : List (Definition × ClassId)} {s : BuildState}
  {owners : List ClassId} {files : List (Target × String)}

/-- What the files of a run are. -/
theorem RunInvariant.emits (h : RunInvariant source registered returned true s)
    (describes : s.Describes source.root {}) (nodup : owners.Nodup)
    (members : List.Forall₂ s.IsClassOf (registered.filter (·.selected)) owners)
    (rendered : renderClasses s.graph settings language [] (owners.flatMap s.owned) = .ok files) :
    s.Emits settings language registered owners files := by
  have sound := h.sound
  have pinned := h.isPinned_of_mem members
  have top : ∀ id ∈ owners.flatMap s.owned, id ∈ s.topLevel := fun id mem =>
    ((sound.mem_flatMap_owned_iff pinned).1 mem).1
  have names : ((owners.flatMap s.owned).map fun id => (s.graph.get id).name).Nodup := by
    refine (sound.nodup_flatMap_owned pinned nodup).map_on fun a memA b memB => ?_
    exact List.inj_on_of_nodup_map sound.nodup_topLevel (top a memA) (top b memB)
  obtain ⟨added, rfl, written⟩ := files_of_renderClasses names (fun _ _ _ mem => by cases mem) rendered
  refine ⟨members, written, pairwise_apart written (fun id mem => ?_) ?_,
    fun id => sound.nesting.mem_topLevel_iff, sound.outermost.order, fun owner mem id belongs ne => ?_,
    fun id top inline => ?_, fun all writes => ?_⟩
  · obtain ⟨inside, outermost⟩ :=
      sound.nesting.mem_topLevel_iff.1 (top id (List.mem_filter.1 mem).1)
    exact sound.outermost.name inside
  · exact names.sublist (List.filter_sublist.map _)
  · obtain ⟨top, owner⟩ := (BuildState.mem_owned_iff_of_ne ne.symm).1 belongs
    refine ⟨top, h.not_isPinned_iff.1 fun isPinned => ne ?_⟩
    rw [← owner, sound.outermost.ownerOf_eq_self isPinned]
  · obtain ⟨owner, isPinned, unique⟩ := sound.exists_owner top (h.not_isPinned_iff.2 inline)
    exact ⟨owner, h.exists_isClassOf isPinned, unique⟩
  · have perm := h.written_perm members nodup all writes
    refine ⟨perm, fun id named mem => perm.mem_iff.2 ?_⟩
    exact sound.nesting.topLevel_mem (sound.lt_size_of_mem_mentioned describes mem)

end

/-- A request that is rendered has a file for each class that belongs to a selected member and is
not ignored. -/
theorem render_emits {document : Value} {settings : Settings} {language : TargetLanguage}
    {request : Request} {files : List (Target × String)} (distinct : document.distinctKeys)
    (h : render (.ofValue document) settings language request = .ok files) :
    ∃ registered owners s, request.registered (.ofValue document) = .ok registered ∧
      buildRequested ⟨.ofValue document, settings.basePackage⟩ request {} = .ok owners s ∧
      s.Emits settings language registered owners files := by
  obtain ⟨⟨graph, classes⟩, requested, rendered⟩ := Except.bind_eq_ok_iff.1 h
  unfold requestedClasses at requested
  split at requested
  · rename_i owners s build
    cases requested
    obtain ⟨registered, found, length, run⟩ := Run.of_buildRequested build
    have invariant := run.invariant distinct rfl
    have describes := buildRequested_accounted ⟨.ofValue document, settings.basePackage⟩ request
    rw [show buildRequested _ request {} = _ from build] at describes
    have members : List.Forall₂ s.IsClassOf (registered.filter (·.selected)) owners :=
      List.forall₂_iff_zip.2 ⟨length.symm, invariant.isClassOf_of_returned⟩
    have nodup : owners.Nodup := by
      refine nodup_of_isClassOf (.sublist (List.filter_sublist.map _) ?_) members
      exact nodup_of_registered distinct found
    exact ⟨registered, owners, s, found, build, invariant.emits describes nodup members rendered⟩
  · cases requested

/-- Without a list of names all members are selected. -/
theorem selected_of_registered {root : Node} {pointer : String} {registered : List Definition}
    (found : (Request.members pointer none).registered root = .ok registered) :
    ∀ member ∈ registered, member.selected := by
  intro member mem
  obtain ⟨entries, hentries, rfl⟩ := Except.map_eq_ok_iff.1 found
  obtain ⟨container, -, hentries⟩ := Except.bind_eq_ok_iff.1 hentries
  split at hentries
  · cases hentries
  · cases hentries
    obtain ⟨entry, -, rfl⟩ := List.mem_map.1 (List.mem_filter.1 mem).1
    rfl

/-- A document in which a class that is declared in a member belongs to another one, from which it
is reached first. -/
def orders : Value := .object [("definitions", .object [
  ("Order", .object [("type", .string "object"), ("properties", .object [
    ("buyer", .object [("$ref", .string "#/definitions/Customer")]),
    ("total", .object [("title", .string "Money"), ("properties", .object [
      ("amount", .object [("type", .string "number")])])])])]),
  ("Customer", .object [("type", .string "object"), ("properties", .object [
    ("credit", .object [("$ref", .string "#/definitions/Order/properties/total")]),
    ("address", .object [("title", .string "Address"), ("properties", .object [
      ("city", .object [("type", .string "string")])])])])])])]

theorem render_emits_orders : ∃ files registered owners s,
    render (.ofValue orders) {} .java (.members "#/definitions" none) = .ok files ∧
      files.map (·.1.name) = ["Order", "Customer", "Money", "Address"] ∧
      (Request.members "#/definitions" none).registered (.ofValue orders) = .ok registered ∧
      buildRequested ⟨.ofValue orders, .string ""⟩ (.members "#/definitions" none) {} =
        .ok owners s ∧ s.Emits {} .java registered owners files ∧
      (s.written {} owners).Perm s.topLevel := by
  have rendered : (render (.ofValue orders) {} .java (.members "#/definitions" none)).toOption.any
      fun files => files.map (·.1.name) == ["Order", "Customer", "Money", "Address"] := by
    decide +kernel
  obtain ⟨files, rendered, names⟩ := Except.exists_of_any rendered
  obtain ⟨registered, owners, s, found, build, emits⟩ := render_emits (by decide +kernel) rendered
  have complete := emits.complete (selected_of_registered found) fun _ _ => rfl
  exact ⟨files, registered, owners, s, rendered, eq_of_beq names, found, build, emits, complete.1⟩

end SchemaClasses
