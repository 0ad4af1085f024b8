import SchemaClasses.Proofs.Emit.Comparison
import SchemaClasses.Proofs.Emit.Inheritance
import SchemaClasses.Proofs.Emit.Outline

/-!
# What a file needs

A class needs imports for the types, the guards and the declarations in it, and what it needs can
be read off the class. What is gathered while a file is written is what its classes need, and
nothing twice.

A step of writing gathers at least some needs, which its argument gives, and at most some others.
The two bounds are apart because a step may ask for the same type again or not, as it is needed for
its text.

## Main definitions

* `Need`, `Requirements.Has`: something that a file may need, and that has been gathered.
* `Emit.Gathers`: a step gathers at least some needs and at most some others.
* `Context.typeNeeds`, `Context.guardNeeds`, `Context.classNeeds`: what types, guards and classes
  need.

## Main statements

* `classText_gathers`: the text of a class needs what the class and those in it do.
* `has_iff_of_fileBody`: what has been gathered for a file is what its classes need.
-/

namespace SchemaClasses

/-! ## Needs -/

inductive Need where
  /-- An import of the language's own names and modules. -/
  | library (name : String)
  /-- A name imported from a module. -/
  | symbol (library name : String)
  /-- A class of another file that annotations name, under a name in this file. -/
  | reference (className localName : String)
  /-- A class of another file that is a base in this one. -/
  | base (className : String)
  /-- The helper that makes lists and maps comparable. -/
  | freezing
deriving DecidableEq

namespace Requirements

variable {needs : Requirements} {need other : Need}

def Has (needs : Requirements) : Need → Prop
  | .library name => name ∈ needs.imports
  | .symbol library name => (library, name) ∈ needs.symbols
  | .reference className localName => (className, localName) ∈ needs.annotations
  | .base className => className ∈ needs.bases
  | .freezing => needs.freezes

structure Distinct (needs : Requirements) : Prop where
  imports : needs.imports.Nodup
  symbols : needs.symbols.Nodup
  annotations : needs.annotations.Nodup
  bases : needs.bases.Nodup

def add (needs : Requirements) : Need → Requirements
  | .library name => { needs with imports := insertOnce name needs.imports }
  | .symbol library name => { needs with symbols := insertOnce (library, name) needs.symbols }
  | .reference className localName =>
    { needs with annotations := insertOnce (className, localName) needs.annotations }
  | .base className => { needs with bases := insertOnce className needs.bases }
  | .freezing => { needs with freezes := true }

theorem not_has_empty (need : Need) : ¬Has {} need := by
  cases need <;> simp [Has]

theorem distinct_empty : Distinct {} := ⟨.nil, .nil, .nil, .nil⟩

theorem mem_insertOnce_iff {α : Type} [DecidableEq α] {element a : α} {elements : List α} :
    a ∈ insertOnce element elements ↔ a ∈ elements ∨ a = element := by
  unfold insertOnce
  split
  · rename_i here
    have mem : element ∈ elements := by simpa using here
    grind
  · simp

theorem nodup_insertOnce {α : Type} [DecidableEq α] {element : α} {elements : List α}
    (h : elements.Nodup) : (insertOnce element elements).Nodup := by
  unfold insertOnce
  split
  · exact h
  · rename_i absent
    have notMem : element ∉ elements := by simpa using absent
    refine List.nodup_append.2 ⟨h, List.nodup_singleton element, ?_⟩
    rintro a mem b isElement rfl
    exact notMem (List.mem_singleton.1 isElement ▸ mem)

theorem has_add_iff : (needs.add need).Has other ↔ needs.Has other ∨ other = need := by
  cases need <;> cases other <;> simp [Has, add, mem_insertOnce_iff]

theorem Distinct.add (h : needs.Distinct) (need : Need) : (needs.add need).Distinct := by
  obtain ⟨imports, symbols, annotations, bases⟩ := h
  cases need with
  | library name => exact ⟨nodup_insertOnce imports, symbols, annotations, bases⟩
  | symbol library name => exact ⟨imports, nodup_insertOnce symbols, annotations, bases⟩
  | reference className localName =>
    exact ⟨imports, symbols, nodup_insertOnce annotations, bases⟩
  | base className => exact ⟨imports, symbols, annotations, nodup_insertOnce bases⟩
  | freezing => exact ⟨imports, symbols, annotations, bases⟩

/-- What has been gathered grows by some needs at least and by some others at most. -/
structure Grows (most : Set Need) (least : List Need) (before after : Requirements) : Prop where
  kept : ∀ need, before.Has need → after.Has need
  least : ∀ need ∈ least, after.Has need
  most : ∀ need, after.Has need → before.Has need ∨ need ∈ most
  distinct : before.Distinct → after.Distinct

variable {most : Set Need} {least later : List Need} {before between after : Requirements}

theorem Grows.refl (most : Set Need) (needs : Requirements) : Grows most [] needs needs :=
  ⟨fun _ has => has, nofun, fun _ has => .inl has, fun distinct => distinct⟩

/-- Gathering a need grows by that need. -/
theorem Grows.add (mem : need ∈ most) (needs : Requirements) :
    Grows most [need] needs (needs.add need) where
  kept _ has := has_add_iff.2 (.inl has)
  least other isNeed := has_add_iff.2 (.inr (List.mem_singleton.1 isNeed))
  most other has := by
    rcases has_add_iff.1 has with has | rfl
    · exact .inl has
    · exact .inr mem
  distinct h := h.add need

/-- What is gathered in two steps grows by the needs of both. -/
theorem Grows.trans (first : Grows most least before between)
    (second : Grows most later between after) : Grows most (least ++ later) before after where
  kept need has := second.kept need (first.kept need has)
  least need mem := by
    rcases List.mem_append.1 mem with mem | mem
    · exact second.kept need (first.least need mem)
    · exact second.least need mem
  most need has := by
    rcases second.most need has with has | mem
    · exact first.most need has
    · exact .inr mem
  distinct h := second.distinct (first.distinct h)

theorem Grows.of_subset (h : Grows most least before after) (sub : later ⊆ least) :
    Grows most later before after :=
  ⟨h.kept, fun need mem => h.least need (sub mem), h.most, h.distinct⟩

end Requirements

/-! ## Steps -/

namespace Emit

variable {α β : Type} {most : Set Need} {least later : List Need} {step : Emit α}
  {next : α → Emit β}

/-- A step that gives a result gathers some needs at least and some others at most. -/
def Gathers (most : Set Need) (least : List Need) (step : Emit α) : Prop :=
  ∀ needs x needs', step needs = .ok x needs' → Requirements.Grows most least needs needs'

namespace Gathers

theorem of_subset (h : Gathers most least step) (sub : later ⊆ least) :
    Gathers most later step :=
  fun needs x needs' run => (h needs x needs' run).of_subset sub

theorem pure (x : α) : Gathers most [] (Pure.pure x : Emit α) := by
  intro needs _ _ run
  cases run
  exact .refl most needs

theorem ofExcept (e : Except Failure α) : Gathers most [] (Emit.ofExcept e) := by
  intro needs _ _ run
  obtain ⟨-, rfl⟩ := ofExcept_eq_ok_iff.1 run
  exact .refl most needs

/-- A step that fails gathers whatever one likes. -/
theorem throw (failure : Failure) : Gathers most least (throw failure : Emit α) := by
  intro _ _ _ run
  cases run

theorem get : Gathers most [] (get : Emit Requirements) := by
  intro needs _ _ run
  cases run
  exact .refl most needs

theorem add {need : Need} (mem : need ∈ most) :
    Gathers most [need] (modify (·.add need) : Emit Unit) := by
  intro needs _ _ run
  cases run
  exact .add mem needs

theorem bind (h : Gathers most least step)
    (k : ∀ x, step.Gives x → Gathers most later (next x)) :
    Gathers most (least ++ later) (step >>= next) := by
  intro needs y needs' run
  obtain ⟨x, between, first, rest⟩ := bind_eq_ok_iff.1 run
  exact (h _ _ _ first).trans (k x ⟨_, _, first⟩ _ _ _ rest)

/-- A step after which nothing more is needed. -/
theorem bind_left (h : Gathers most least step)
    (k : ∀ x, step.Gives x → Gathers most [] (next x)) : Gathers most least (step >>= next) :=
  (h.bind k).of_subset (by simp)

/-- A step before which nothing is needed. -/
theorem bind_right (h : Gathers most [] step)
    (k : ∀ x, step.Gives x → Gathers most later (next x)) : Gathers most later (step >>= next) :=
  h.bind k

theorem ofExcept_bind {e : Except Failure α} (k : ∀ x, e = .ok x → Gathers most later (next x)) :
    Gathers most later (Emit.ofExcept e >>= next) :=
  (ofExcept e).bind_right fun x given => k x given.of_ofExcept

theorem map (h : Gathers most least step) (f : α → β) : Gathers most least (f <$> step) := by
  rw [map_eq_pure_bind]
  exact h.bind_left fun x _ => pure (f x)

theorem mapM {f : α → Emit β} {needsOf : α → List Need} {as : List α}
    (h : ∀ a ∈ as, Gathers most (needsOf a) (f a)) :
    Gathers most (as.flatMap needsOf) (as.mapM f) := by
  induction as with
  | nil => exact pure []
  | cons a rest ih =>
    obtain ⟨first, others⟩ := List.forall_mem_cons.1 h
    rw [List.mapM_cons, List.flatMap_cons]
    exact first.bind fun b _ => (ih others).bind_left fun bs _ => pure (b :: bs)

theorem mapM_nil {f : α → Emit β} {as : List α} (h : ∀ a ∈ as, Gathers most [] (f a)) :
    Gathers most [] (as.mapM f) :=
  (mapM h).of_subset (List.nil_subset _)

theorem filterM {p : α → Emit Bool} {as : List α} (h : ∀ a ∈ as, Gathers most [] (p a)) :
    Gathers most [] (as.filterM p) := by
  have aux (kept : List α) : Gathers most [] (as.filterAuxM p kept) := by
    induction as generalizing kept with
    | nil => exact pure kept
    | cons a rest ih =>
      obtain ⟨first, others⟩ := List.forall_mem_cons.1 h
      exact first.bind_left fun _ _ => ih others _
  exact (aux []).bind_left fun kept _ => pure kept.reverse

/-- A loop gathers the needs of all its steps. -/
theorem forIn {f : α → Emit PUnit} {needsOf : α → List Need} {as : List α}
    (h : ∀ a ∈ as, Gathers most (needsOf a) (f a)) :
    Gathers most (as.flatMap needsOf) (ForIn.forIn as PUnit.unit fun a _ => do
      f a
      Pure.pure (ForInStep.yield PUnit.unit)) := by
  induction as with
  | nil => exact pure _
  | cons a rest ih =>
    obtain ⟨first, others⟩ := List.forall_mem_cons.1 h
    rw [List.forIn_cons, List.flatMap_cons]
    refine (first.bind_left fun _ _ => pure _).bind fun step given => ?_
    obtain ⟨_, -, given⟩ := given.of_bind
    rw [← given.of_pure]
    exact ih others

end Gathers

end Emit

/-! ## Types -/

def TypeRef.parts : TypeRef → List TypeRef
  | .sequence item constraints => .sequence item constraints :: item.parts
  | .map value => .map value :: value.parts
  | type => [type]

def primitiveNeeds (language : TargetLanguage) (kind : PrimitiveKind) : List Need :=
  (language.primitiveImport? kind).toList.map .library ++
    if language = .python ∧ kind = .any then [.symbol "typing" "Any"] else []

namespace Context

/-- What a class or an enum needs where it is named, if it stands in the given top-level class: in
Python, to be imported from another module. -/
def nameNeeds (context : Context) (head : ClassId) : List Need :=
  if context.language = .python ∧ context.file ≠ some head then
    let name := (context.graph.get head).name
    [.reference name (if context.isHidden head then "_" ++ name else name)]
  else []

/-- What a type needs where it is written, besides what the types in it need. -/
def partNeeds (context : Context) : TypeRef → List Need
  | .primitive kind _ => primitiveNeeds context.language kind
  | .sequence .. => if context.language = .java then [.library "java.util.List"] else []
  | .map _ => if context.language = .java then [.library "java.util.Map"] else []
  | .ofClass id => context.nameNeeds (context.graph.topLevel id)
  | .enum definition => context.nameNeeds (context.graph.topLevel definition.owner)
  | .undetermined | .absent => []

def typeNeeds (context : Context) (type : TypeRef) : List Need :=
  type.parts.flatMap context.partNeeds

end Context

open Emit

section

variable {context : Context} {most : Set Need} {type : TypeRef} {property : Property}
  {guards : List Guard}

theorem typeNeeds_eq_of_parts (single : type.parts = [type]) :
    context.typeNeeds type = context.partNeeds type := by
  rw [Context.typeNeeds, single, List.flatMap_singleton]

/-- The name of a class at the top level needs an import if it stands in another file. -/
theorem qualify_gathers (context : Context) {head : ClassId} (inner : List String)
    (within : ∀ need ∈ context.nameNeeds head, need ∈ most) :
    Gathers most (context.nameNeeds head) (context.qualify head inner) := by
  unfold Context.qualify
  extract_lets model name localName
  split
  · rename_i python
    split
    · rename_i here
      rw [Context.nameNeeds, if_neg (by simp [here])]
      exact .pure _
    · rename_i elsewhere
      have needed : context.nameNeeds head = [.reference model.name localName] := by
        rw [Context.nameNeeds, if_pos ⟨python, elsewhere⟩]
      rw [needed] at within ⊢
      exact .bind_left (.add (within _ (List.mem_singleton_self _))) fun _ _ => .pure _
  · rename_i notPython
    rw [Context.nameNeeds, if_neg fun here => notPython here.1]
    split
    · exact .pure _
    · split
      · exact .pure _
      · exact .throw _

theorem requireCollection_gathers {language : TargetLanguage} {name : String}
    (within : language = .java → Need.library ("java.util." ++ name) ∈ most) :
    Gathers most (if language = .java then [.library ("java.util." ++ name)] else [])
      (requireCollection language name) := by
  cases language with
  | kotlin => exact .pure _
  | java => exact .add (within rfl)
  | python => exact .pure _

/-- The imports of a primitive type are the same whether or not it is nullable. -/
theorem primitiveText_gathers (language : TargetLanguage) (kind : PrimitiveKind)
    (nullable : Bool) (within : ∀ need ∈ primitiveNeeds language kind, need ∈ most) :
    Gathers most (primitiveNeeds language kind) (primitiveText language kind nullable) := by
  unfold primitiveNeeds at within ⊢
  obtain ⟨library, any⟩ := List.forall_mem_append.1 within
  unfold primitiveText
  extract_lets name finish imported
  have finishes (done : Unit) : Gathers most [] (finish done) := by
    unfold finish
    split <;> exact .pure _
  have goesOn (done : Unit) : Gathers most
      (if language = .python ∧ kind = .any then [.symbol "typing" "Any"] else [])
      (imported done) := by
    unfold imported
    split
    · rename_i isAny
      rw [if_pos (by simpa using isAny)] at any ⊢
      exact .bind_left (.add (any _ (List.mem_singleton_self _))) fun done _ => finishes done
    · rename_i notAny
      rw [if_neg (by simpa using notAny)]
      exact finishes ()
  cases found : language.primitiveImport? kind with
  | none => exact goesOn ()
  | some path =>
    rw [found] at library
    exact .bind (.add (library _ (List.mem_singleton_self _))) fun done _ => goesOn done

/-- By induction on the type: each part gathers what it needs. -/
theorem typeName_gathers (context : Context) (nullable : Bool) (type : TypeRef)
    (within : ∀ need ∈ context.typeNeeds type, need ∈ most) :
    Gathers most (context.typeNeeds type) (context.typeName nullable type) := by
  induction type generalizing nullable with
  | primitive kind format =>
    rw [typeNeeds_eq_of_parts rfl] at within ⊢
    exact .bind_left (primitiveText_gathers _ kind _ within) fun _ _ => .pure _
  | ofClass id =>
    rw [typeNeeds_eq_of_parts rfl] at within ⊢
    exact .bind_left (qualify_gathers context _ within) fun _ _ => .pure _
  | enum definition =>
    rw [typeNeeds_eq_of_parts rfl] at within ⊢
    exact .bind_left (qualify_gathers context _ within) fun _ _ => .pure _
  | sequence item constraints ih =>
    obtain ⟨here, inside⟩ := List.forall_mem_append.1 within
    refine .bind (requireCollection_gathers fun java => here _ ?_) fun _ _ => ?_
    · simp [Context.partNeeds, java]
    · exact (ih _ inside).bind_left fun _ _ => .pure _
  | map value ih =>
    obtain ⟨here, inside⟩ := List.forall_mem_append.1 within
    refine .bind (requireCollection_gathers fun java => here _ ?_) fun _ _ => ?_
    · simp [Context.partNeeds, java]
    · exact (ih _ inside).bind_left fun _ _ => .pure _
  | undetermined => exact .throw _
  | absent => exact .throw _

theorem qualify_gathers_nil (notPython : context.language ≠ .python) (head : ClassId)
    (inner : List String) : Gathers most [] (context.qualify head inner) := by
  have nothing : context.nameNeeds head = [] := if_neg fun here => notPython here.1
  exact nothing ▸ qualify_gathers context inner (by simp [nothing])

theorem superclassName_gathers (notPython : context.language ≠ .python) (id base : ClassId) :
    Gathers most [] (context.superclassName id base) :=
  @qualify_gathers_nil { context with body := (context.graph.get id).enclosing } most notPython _ _

/-- A default needs no imports of its own. -/
theorem defaultValue_gathers (context : Context) (value : Value) (type : TypeRef) :
    Gathers most [] (context.defaultValue value type) := by
  unfold Context.defaultValue
  split
  · extract_lets finish
    have finishes (owner : String) : Gathers most [] (finish owner) :=
      .ofExcept_bind fun _ _ => .pure _
    split
    · exact .bind_left (.pure _) fun owner _ => finishes owner
    · rename_i notPython
      exact .bind_left (qualify_gathers_nil notPython _ _) fun owner _ => finishes owner
  · exact .throw _
  · exact .ofExcept _

end

/-! ## Guards -/

def TypeRef.isFrozen (type : TypeRef) : Bool := (needsFreezing type).toOption.getD false

/-- Whether a guard compares values that can be lists or maps. -/
def Guard.comparesFrozen (guard : Guard) (property : Property) : Bool :=
  guard.kind = .uniqueItems && (comparedType guard property).toOption.any TypeRef.isFrozen

def Guard.needs (language : TargetLanguage) (property : Property) (guard : Guard) : List Need :=
  (((guardImports language).lookup guard.kind.keyword).getD []).map .library ++
    if language = .python ∧ guard.comparesFrozen property then [.freezing] else []

def Context.guardNeeds (context : Context) (property : Property) : List Need :=
  ((context.guardsOf property).toOption.getD []).flatMap (Guard.needs context.language property)

section

variable {context : Context} {most : Set Need} {property : Property} {guard : Guard}
  {guards : List Guard}

theorem isFrozen_of_ok {type : TypeRef} {freezes : Bool} (h : needsFreezing type = .ok freezes) :
    type.isFrozen = freezes := by
  rw [TypeRef.isFrozen, h]
  rfl

theorem guardNeeds_of_gives (named : ∀ id, (boxed? (context.graph.get id).name).isSome = false)
    (h : (context.writtenGuards property).Gives guards) :
    context.guardNeeds property = guards.flatMap (Guard.needs context.language property) := by
  rw [Context.guardNeeds, guardsOf_of_gives named h]
  rfl

theorem fieldType_gathers (within : ∀ need ∈ context.typeNeeds property.type, need ∈ most) :
    Gathers most (context.typeNeeds property.type) (context.fieldType property) :=
  typeName_gathers context _ _ within

/-- Looking at the written type of a property gathers no more than the type needs. -/
theorem writtenGuards_gathers
    (within : context.language = .java → ∀ need ∈ context.typeNeeds property.type, need ∈ most) :
    Gathers most [] (context.writtenGuards property) := by
  have implied (guard : Guard) : Gathers most [] (context.impliedByType property guard) := by
    unfold Context.impliedByType
    split
    · exact .pure _
    · rename_i java _
      exact .of_subset (.bind_left (fieldType_gathers (within java)) fun _ _ => .pure _)
        (List.nil_subset _)
    · exact .pure _
  unfold Context.writtenGuards
  split
  · exact .pure _
  · refine .ofExcept_bind fun guards _ => .bind_left (.filterM fun guard _ =>
      .bind_left (implied guard) fun _ _ => .pure _) fun kept _ => ?_
    split <;> exact .pure _

theorem guardLines_gathers {language : TargetLanguage} {value itemType : String}
    {key? : Option String} (within : ∀ name ∈ ((guardImports language).lookup
      guard.kind.keyword).getD [], Need.library name ∈ most) :
    Gathers most ((((guardImports language).lookup guard.kind.keyword).getD []).map .library)
      (guardLines language guard value itemType key?) := by
  rw [List.map_eq_flatMap]
  exact .bind_left (.forIn fun name mem => .add (within name mem)) fun _ _ => .ofExcept _

/-- Python uses the helper for a guard that compares values which can be lists or maps. -/
theorem freezingKey_gathers (within : guard.comparesFrozen property → .freezing ∈ most) :
    Gathers most (if guard.comparesFrozen property then [.freezing] else [])
      (freezingKey guard property) := by
  unfold freezingKey
  unfold Guard.comparesFrozen at within ⊢
  by_cases unique : guard.kind = .uniqueItems
  · rw [if_neg (not_not.2 unique)]
    refine .ofExcept_bind fun type compared => .ofExcept_bind fun freezes found => ?_
    simp only [unique, compared, Except.toOption, Option.any_some, isFrozen_of_ok found,
      decide_true, Bool.true_and] at within ⊢
    cases freezes with
    | false => exact .pure _
    | true => exact .bind_left (.add (within rfl)) fun _ _ => .pure _
  · rw [if_pos unique, if_neg (by simp [unique])]
    exact .pure _

end

/-! ## Classes -/

/-- What a base needs in the declaration of a Python class: to be imported from another module. -/
def Python.baseNeeds (context : Context) (base : ClassId) : List Need :=
  let top := context.graph.topLevel base
  if context.file = some top then [] else [.base (context.graph.get top).name]

def Python.hashNeeds (properties : List Property) : List Need :=
  if properties.any (·.type.isFrozen) then [.freezing] else []

/-- What the declaration of a Python class needs besides the types and guards in it. -/
def Python.declarationNeeds (context : Context) (id : ClassId) : List Need :=
  (context.graph.get id).enums.map (fun _ => .symbol "enum" "Enum") ++
    (context.superclass? id).toList.flatMap (baseNeeds context) ++
    if (context.graph.get id).kind = .plain then []
    else .symbol "dataclasses" "dataclass" :: hashNeeds
      ((context.splitFields id).1 ++ (context.splitFields id).2)

/-- The properties whose types a class writes. In Kotlin and Java these are also the ones that its
constructor passes on. -/
def Context.typedProperties (context : Context) (id : ClassId) : List Property :=
  match context.language with
  | .python => (context.splitFields id).2
  | _ => (context.splitFields id).1 ++ (context.splitFields id).2

/-- What a class needs, apart from the classes declared in it. -/
def Context.classNeeds (context : Context) (id : ClassId) : List Need :=
  (context.typedProperties id).flatMap (context.typeNeeds ·.type) ++
    (context.splitFields id).2.flatMap context.guardNeeds ++
    match context.language with
    | .python => Python.declarationNeeds context id
    | _ => []

section

variable {context : Context} {most : Set Need} {least : List Need} {id : ClassId}
  {nested : Emit (List Section)} {property : Property} {inherited own : List Property}

theorem forall_flatMap_within {α : Type} {f : α → List Need} {as : List α}
    (within : ∀ need ∈ as.flatMap f, need ∈ most) : ∀ a ∈ as, ∀ need ∈ f a, need ∈ most :=
  fun _ mem need isNeed => within need (List.mem_flatMap_of_mem mem isNeed)

/-- The guards of a property, each written by a step that needs what the guard does. -/
theorem checks_gathers {α β : Type} {write : Guard → Emit α} {next : List α → Emit β}
    (named : ∀ id, (boxed? (context.graph.get id).name).isSome = false)
    (types : context.language = .java → ∀ need ∈ context.typeNeeds property.type, need ∈ most)
    (within : ∀ need ∈ context.guardNeeds property, need ∈ most)
    (each : ∀ guard, (∀ need ∈ guard.needs context.language property, need ∈ most) →
      Gathers most (guard.needs context.language property) (write guard))
    (rest : ∀ parts, Gathers most [] (next parts)) :
    Gathers most (context.guardNeeds property)
      (do
        let guards ← context.writtenGuards property
        let parts ← guards.mapM write
        next parts) := by
  refine (writtenGuards_gathers types).bind_right fun guards given => ?_
  rw [guardNeeds_of_gives named given] at within ⊢
  have written := Gathers.mapM fun guard mem =>
    each guard (forall_flatMap_within within guard mem)
  exact written.bind_left fun parts _ => rest parts

theorem Guard.library_within {language : TargetLanguage} {guard : Guard}
    (within : ∀ need ∈ guard.needs language property, need ∈ most) :
    ∀ name ∈ ((guardImports language).lookup guard.kind.keyword).getD [],
      Need.library name ∈ most :=
  fun _ mem => within _ (List.mem_append_left _ (List.mem_map_of_mem mem))

theorem Guard.needs_of_ne_python {language : TargetLanguage} (notPython : language ≠ .python)
    (guard : Guard) : guard.needs language property =
      (((guardImports language).lookup guard.kind.keyword).getD []).map .library := by
  simp [Guard.needs, notPython]

namespace Kotlin

theorem parameter_gathers {declares : Bool}
    (within : ∀ need ∈ context.typeNeeds property.type, need ∈ most) :
    Gathers most (context.typeNeeds property.type) (parameter context declares property) := by
  refine .ofExcept_bind fun name _ => (fieldType_gathers within).bind_left fun type _ => ?_
  extract_lets text
  split
  · exact .bind_left (defaultValue_gathers _ _ _) fun _ _ => .pure _
  · exact .pure _

theorem superclassCall_gathers (notPython : context.language ≠ .python) (base? : Option ClassId) :
    Gathers most [] (superclassCall context id inherited base?) := by
  cases base? with
  | none => exact .pure _
  | some base =>
    refine .bind_left (.mapM_nil fun property _ => .ofExcept _) fun arguments _ => ?_
    exact .bind_left (superclassName_gathers notPython id base) fun _ _ => .pure _

theorem guardsOfProperty_gathers (kotlin : context.language = .kotlin)
    (named : ∀ id, (boxed? (context.graph.get id).name).isSome = false)
    (within : ∀ need ∈ context.guardNeeds property, need ∈ most) :
    Gathers most (context.guardNeeds property) (guardsOfProperty context property) := by
  refine checks_gathers named (fun java => absurd (kotlin.symm.trans java) (by decide)) within
    (fun guard within => .ofExcept_bind fun name _ => ?_) fun _ => .pure _
  rw [kotlin] at within ⊢
  rw [Guard.needs_of_ne_python (by decide)]
  exact guardLines_gathers (Guard.library_within within)

theorem initSections_gathers (kotlin : context.language = .kotlin)
    (named : ∀ id, (boxed? (context.graph.get id).name).isSome = false)
    (within : ∀ need ∈ own.flatMap context.guardNeeds, need ∈ most) :
    Gathers most (own.flatMap context.guardNeeds) (initSections context own) := by
  refine .bind_left (.mapM fun property mem => guardsOfProperty_gathers kotlin named
    (forall_flatMap_within within property mem)) fun lines _ => ?_
  extract_lets all
  split <;> exact .pure _

theorem enumSection_gathers (definition : EnumDef) : Gathers most [] (enumSection definition) :=
  .bind_left (.mapM_nil fun _ _ => .ofExcept _) fun _ _ => .pure _

theorem equalsSection_gathers (name : String) (extendsBase : Bool) (own : List Property) :
    Gathers most [] (equalsSection name extendsBase own) :=
  .bind_left (.mapM_nil fun _ _ => .ofExcept_bind fun _ _ => .pure _) fun _ _ => .pure _

theorem hashSection_gathers (extendsBase : Bool) (own : List Property) :
    Gathers most [] (hashSection extendsBase own) :=
  .bind_left (.mapM_nil fun _ _ => .ofExcept_bind fun _ _ => .pure _) fun _ _ => .pure _

/-- A Kotlin class needs what its types and its guards do, and the classes in it. -/
theorem declaration_gathers (kotlin : context.language = .kotlin)
    (named : ∀ id, (boxed? (context.graph.get id).name).isSome = false)
    (within : ∀ need ∈ context.classNeeds id, need ∈ most) (inner : Gathers most least nested) :
    Gathers most (context.classNeeds id ++ least) (Kotlin.declaration context id nested) := by
  unfold Context.classNeeds Context.typedProperties at within ⊢
  unfold Kotlin.declaration
  extract_lets model base?
  cases split : context.splitFields id with
  | mk inherited own =>
    simp -zeta only [split, kotlin, List.append_nil, List.flatMap_append] at within ⊢
    obtain ⟨types, guards⟩ := List.forall_mem_append.1 within
    obtain ⟨passedTypes, declaredTypes⟩ := List.forall_mem_append.1 types
    simp -zeta only [List.append_assoc]
    refine .bind (.mapM fun property mem =>
      parameter_gathers (forall_flatMap_within passedTypes property mem)) fun passed _ => ?_
    refine .bind (.mapM fun property mem =>
      parameter_gathers (forall_flatMap_within declaredTypes property mem)) fun declared _ => ?_
    refine .bind_right (superclassCall_gathers (by rw [kotlin]; decide) _) fun supertype _ => ?_
    refine .bind_right (.mapM_nil fun definition _ => enumSection_gathers definition)
      fun enums _ => ?_
    refine .bind (initSections_gathers kotlin named guards) fun init _ => ?_
    extract_lets finish
    have finishes (equality : List Section) : Gathers most least (finish equality) :=
      inner.bind_left fun _ _ => .pure _
    split
    · exact .bind_right (equalsSection_gathers _ _ _) fun _ _ =>
        .bind_right (hashSection_gathers _ _) fun _ _ => finishes _
    · exact finishes []

end Kotlin

namespace Java

theorem fieldType_gathers_nil (within : ∀ need ∈ context.typeNeeds property.type, need ∈ most) :
    Gathers most [] (context.fieldType property) :=
  (fieldType_gathers within).of_subset (List.nil_subset _)

theorem fieldLine_gathers (within : ∀ need ∈ context.typeNeeds property.type, need ∈ most) :
    Gathers most [] (fieldLine context property) :=
  (fieldType_gathers_nil within).bind_left fun _ _ => .ofExcept_bind fun _ _ => .pure _

theorem parameter_gathers (within : ∀ need ∈ context.typeNeeds property.type, need ∈ most) :
    Gathers most (context.typeNeeds property.type) (parameter context property) :=
  (typeName_gathers context _ _ within).bind_left fun _ _ => .ofExcept_bind fun _ _ => .pure _

theorem getterSection_gathers (within : ∀ need ∈ context.typeNeeds property.type, need ∈ most) :
    Gathers most [] (getterSection context property) :=
  .ofExcept_bind fun _ _ => (fieldType_gathers_nil within).bind_left fun _ _ => .pure _

theorem loopType_gathers (within : ∀ need ∈ context.typeNeeds property.type, need ∈ most) :
    Gathers most [] (loopType context property) := by
  unfold loopType
  split
  · rename_i item constraints isSequence
    rw [isSequence] at within
    have inside := (List.forall_mem_append.1 within).2
    exact (typeName_gathers context _ item inside).of_subset (List.nil_subset _)
  · exact .pure _

/-- A field of Java needs what the guards on it do. -/
theorem assignment_gathers (java : context.language = .java)
    (named : ∀ id, (boxed? (context.graph.get id).name).isSome = false)
    (types : ∀ need ∈ context.typeNeeds property.type, need ∈ most)
    (within : ∀ need ∈ context.guardNeeds property, need ∈ most) :
    Gathers most (context.guardNeeds property) (assignment context property) := by
  refine .ofExcept_bind fun name _ => (loopType_gathers types).bind_right fun itemType _ => ?_
  refine checks_gathers named (fun _ => types) within (fun guard within => ?_) fun checks => ?_
  · rw [java] at within ⊢
    rw [Guard.needs_of_ne_python (by decide)]
    exact guardLines_gathers (Guard.library_within within)
  · extract_lets finish
    have finishes (value : String) : Gathers most [] (finish value) := .pure _
    split
    · exact .bind_left (defaultValue_gathers _ _ _) fun _ _ =>
        .bind_left (.pure _) fun _ _ => finishes _
    · exact .bind_left (.pure _) fun _ _ => finishes _

/-- The constructor in Java needs the types of all properties and the guards on those of the
class. -/
theorem constructorSections_gathers (java : context.language = .java)
    (named : ∀ id, (boxed? (context.graph.get id).name).isSome = false) (name : String)
    (extendsBase : Bool)
    (types : ∀ need ∈ (inherited ++ own).flatMap (context.typeNeeds ·.type), need ∈ most)
    (within : ∀ need ∈ own.flatMap context.guardNeeds, need ∈ most) :
    Gathers most ((inherited ++ own).flatMap (context.typeNeeds ·.type) ++
      own.flatMap context.guardNeeds)
      (constructorSections context name extendsBase inherited own) := by
  unfold constructorSections
  split
  · rename_i empty
    obtain ⟨rfl, rfl⟩ : inherited = [] ∧ own = [] := by simpa using empty
    exact .pure _
  · refine .bind_left (.bind (.mapM fun property mem =>
      parameter_gathers (forall_flatMap_within types property mem)) fun parameters _ => ?_)
      fun _ _ => .pure _
    extract_lets finish
    have finishes (superCall : List String) :
        Gathers most (own.flatMap context.guardNeeds) (finish superCall) :=
      .bind_left (.mapM fun property mem => assignment_gathers java named
        (forall_flatMap_within types property (List.mem_append_right _ mem))
        (forall_flatMap_within within property mem)) fun _ _ => .pure _
    split
    · exact .bind_right (.mapM_nil fun _ _ => .ofExcept _) fun _ _ => finishes _
    · exact finishes []

theorem equalTest_gathers (within : ∀ need ∈ context.typeNeeds property.type, need ∈ most) :
    Gathers most [] (equalTest context property) := by
  refine .ofExcept_bind fun name _ => (fieldType_gathers_nil within).bind_left fun type _ => ?_
  split
  · exact .pure _
  · split <;> exact .pure _

theorem unequalTest_gathers (within : ∀ need ∈ context.typeNeeds property.type, need ∈ most) :
    Gathers most [] (unequalTest context property) := by
  refine .ofExcept_bind fun name _ => (fieldType_gathers_nil within).bind_left fun type _ => ?_
  split
  · exact .pure _
  · split
    · exact .bind_left (equalTest_gathers within) fun _ _ => .pure _
    · exact .pure _

/-- Comparing fields looks at their types, which have been written. -/
theorem comparisonLines_gathers
    (within : ∀ property ∈ own, ∀ need ∈ context.typeNeeds property.type, need ∈ most) :
    Gathers most [] (comparisonLines context own) := by
  fun_induction comparisonLines context own with
  | case1 => exact .pure _
  | case2 property =>
    have here := within property (List.mem_singleton_self property)
    exact .bind_left (equalTest_gathers here) fun _ _ => .pure _
  | case3 property rest more ih =>
    obtain ⟨here, others⟩ := List.forall_mem_cons.1 within
    exact .bind_left (unequalTest_gathers here) fun _ _ =>
      .bind_left (ih others) fun _ _ => .pure _

theorem hashTerm_gathers (within : ∀ need ∈ context.typeNeeds property.type, need ∈ most) :
    Gathers most [] (hashTerm context property) := by
  refine .ofExcept_bind fun name _ => (fieldType_gathers_nil within).bind_left fun type _ => ?_
  split <;> exact .pure _

theorem enumSection_gathers (definition : EnumDef) : Gathers most [] (enumSection definition) :=
  .bind_left (.mapM_nil fun _ _ => .ofExcept _) fun _ _ => .pure _

/-- A Java class needs what its types and its guards do, and the classes in it. -/
theorem declaration_gathers (java : context.language = .java)
    (named : ∀ id, (boxed? (context.graph.get id).name).isSome = false)
    (within : ∀ need ∈ context.classNeeds id, need ∈ most) (inner : Gathers most least nested) :
    Gathers most (context.classNeeds id ++ least) (Java.declaration context id nested) := by
  unfold Context.classNeeds Context.typedProperties at within ⊢
  unfold Java.declaration
  extract_lets model base?
  cases split : context.splitFields id with
  | mk inherited own =>
    simp -zeta only [split, java, List.append_nil] at within ⊢
    obtain ⟨types, guards⟩ := List.forall_mem_append.1 within
    have declared (property : Property) (mem : property ∈ own) :=
      forall_flatMap_within types property (List.mem_append_right _ mem)
    extract_lets extended
    have rest (extension : String) : Gathers most ((inherited ++ own).flatMap
        (context.typeNeeds ·.type) ++ own.flatMap context.guardNeeds ++ least)
        (extended extension) := by
      refine .bind_right (.mapM_nil fun property mem =>
        fieldLine_gathers (declared property mem)) fun fields _ => ?_
      refine .bind (constructorSections_gathers java named _ _ types guards)
        fun constructor _ => ?_
      refine .bind_right (.mapM_nil fun property mem =>
        getterSection_gathers (declared property mem)) fun getters _ => ?_
      extract_lets finish
      have finishes (equality : List Section) : Gathers most least (finish equality) :=
        .bind_right (.mapM_nil fun definition _ => enumSection_gathers definition) fun enums _ =>
          inner.bind_left fun _ _ => .pure _
      split
      · exact .bind_right (.bind_left (comparisonLines_gathers declared) fun _ _ => .pure _)
          fun _ _ => .bind_right (.bind_left (.mapM_nil fun property mem =>
            hashTerm_gathers (declared property mem)) fun _ _ => .pure _) fun _ _ => finishes _
      · exact finishes []
    clear_value extended base?
    cases base? with
    | none => exact rest ""
    | some base =>
      exact .bind_right (superclassName_gathers (by rw [java]; decide) id base) fun _ _ => rest _

end Java

namespace Python

/-- A field in Python needs its type. -/
theorem fieldLine_gathers (within : ∀ need ∈ context.typeNeeds property.type, need ∈ most) :
    Gathers most (context.typeNeeds property.type) (fieldLine context id property) := by
  refine .ofExcept_bind fun name _ => (fieldType_gathers within).bind_left fun type _ => ?_
  extract_lets line
  split
  · exact .pure _
  · extract_lets finish
    have finishes (done : Unit) : Gathers most [] (finish done) :=
      .bind_left (defaultValue_gathers _ _ _) fun _ _ => .pure _
    split
    · split
      · exact .bind_left (.throw _) fun done _ => finishes done
      · exact finishes ()
    · exact finishes ()

/-- The guards in Python need what they compare. -/
theorem guardsOfProperty_gathers (python : context.language = .python)
    (named : ∀ id, (boxed? (context.graph.get id).name).isSome = false)
    (within : ∀ need ∈ context.guardNeeds property, need ∈ most) :
    Gathers most (context.guardNeeds property) (guardsOfProperty context property) := by
  refine checks_gathers named (fun java => absurd (python.symm.trans java) (by decide)) within
    (fun guard within => .ofExcept_bind fun name _ => ?_) fun _ => .pure _
  rw [python, Guard.needs] at within ⊢
  simp only [true_and] at within ⊢
  obtain ⟨libraries, freezing⟩ := List.forall_mem_append.1 within
  have key : guard.comparesFrozen property → .freezing ∈ most := by
    intro frozen
    rw [if_pos frozen] at freezing
    exact freezing _ (List.mem_singleton_self _)
  exact ((freezingKey_gathers key).bind fun key? _ => guardLines_gathers
    (List.forall_mem_map.1 libraries)).of_subset List.perm_append_comm.subset

theorem anyGuarded_gathers (python : context.language = .python) (properties : List Property) :
    Gathers most [] (anyGuarded context properties) := by
  induction properties with
  | nil => exact .pure _
  | cons property rest ih =>
    refine .bind_left (writtenGuards_gathers fun java =>
      absurd (python.symm.trans java) (by decide)) fun guards _ => ?_
    split
    · exact ih
    · exact .pure _

theorem checkSections_gathers (python : context.language = .python)
    (named : ∀ id, (boxed? (context.graph.get id).name).isSome = false)
    (within : ∀ need ∈ own.flatMap context.guardNeeds, need ∈ most) :
    Gathers most (own.flatMap context.guardNeeds) (checkSections context inherited own) := by
  refine .bind_left (.mapM fun property mem => guardsOfProperty_gathers python named
    (forall_flatMap_within within property mem)) fun lines _ => ?_
  extract_lets all
  split
  · exact .pure _
  · exact .bind_left (anyGuarded_gathers python _) fun _ _ => .pure _

theorem enumSection_gathers (within : Need.symbol "enum" "Enum" ∈ most) (definition : EnumDef) :
    Gathers most [.symbol "enum" "Enum"] (enumSection definition) := by
  refine .bind_left (.add within) fun _ _ => .bind_left (.mapM_nil fun _ _ =>
    .ofExcept_bind fun _ _ => .pure _) fun members _ => ?_
  extract_lets finish
  split
  · exact .bind_left (.throw _) fun _ _ => .pure _
  · exact .pure _

/-- The hash of some properties uses the helper if the values of one can be lists or maps. -/
theorem any_isFrozen_of_anyFreezing {properties : List Property} {freezes : Bool}
    (h : anyFreezing properties = .ok freezes) : properties.any (·.type.isFrozen) = freezes := by
  induction properties with
  | nil =>
    cases h
    rfl
  | cons property rest ih =>
    rw [anyFreezing] at h
    obtain ⟨first, found, h⟩ := Except.bind_eq_ok_iff.1 h
    rw [List.any_cons, isFrozen_of_ok found]
    cases first with
    | false => exact ih h
    | true =>
      cases h
      rfl

/-- The hash in Python needs the helper if a field is a list or a map. -/
theorem hashSections_gathers {properties : List Property}
    (within : ∀ need ∈ hashNeeds properties, need ∈ most) :
    Gathers most (hashNeeds properties) (hashSections properties) := by
  refine .ofExcept_bind fun freezes found => ?_
  unfold hashNeeds at within ⊢
  rw [any_isFrozen_of_anyFreezing found] at within ⊢
  cases freezes with
  | false => exact .pure _
  | true =>
    refine .bind_left (.add (within _ (List.mem_singleton_self _))) fun _ _ =>
      .bind_left (.mapM_nil fun property _ => ?_) fun _ _ => .pure _
    refine .ofExcept_bind fun name _ => .ofExcept_bind fun freezes _ => ?_
    split <;> exact .pure _

theorem baseName_gathers {base : ClassId} (within : ∀ need ∈ baseNeeds context base, need ∈ most) :
    Gathers most (baseNeeds context base) (baseName context base) := by
  unfold baseName
  extract_lets top finish
  by_cases here : context.file = some top
  · rw [baseNeeds, if_pos here, if_neg (not_not.2 here)]
    exact .pure _
  · rw [baseNeeds, if_neg here] at within ⊢
    rw [if_pos here]
    exact .bind_left (.add (within _ (List.mem_singleton_self _))) fun _ _ => .pure _

/-- What a class extends is needed before what comes after its name in the head. -/
theorem superclass_gathers {base? : Option ClassId} {next : String → Emit Declaration}
    (within : ∀ need ∈ base?.toList.flatMap (baseNeeds context), need ∈ most)
    (rest : ∀ bases, Gathers most least (next bases)) :
    Gathers most (base?.toList.flatMap (baseNeeds context) ++ least)
      (match base? with
        | some base => do
          let name ← baseName context base
          let bases ← pure ("(" ++ name ++ ")")
          next bases
        | none => do
          let bases ← pure ""
          next bases) := by
  cases base? with
  | none => exact .bind_right (.pure "") fun bases _ => rest bases
  | some base =>
    rw [Option.toList_some, List.flatMap_singleton] at within ⊢
    exact (baseName_gathers within).bind fun _ _ => .bind_right (.pure _) fun bases _ => rest bases

/-- A class with properties is declared as a data class. -/
theorem dataclass_gathers {kind : ClassKind} {plain dataclass : Declaration}
    (within : kind ≠ .plain → Need.symbol "dataclasses" "dataclass" ∈ most) :
    Gathers most (if kind = .plain then [] else [.symbol "dataclasses" "dataclass"])
      (if kind = .plain then pure plain
      else do
        Emit.requireSymbol "dataclasses" "dataclass"
        pure dataclass) := by
  split
  · exact .pure _
  · rename_i notPlain
    exact .bind_left (.add (within notPlain)) fun _ _ => .pure _

/-- A Python class needs what its types, its guards and its declaration do, and the classes in
it. -/
theorem declaration_gathers (python : context.language = .python)
    (named : ∀ id, (boxed? (context.graph.get id).name).isSome = false)
    (within : ∀ need ∈ context.classNeeds id, need ∈ most) (inner : Gathers most least nested) :
    Gathers most (context.classNeeds id ++ least) (Python.declaration context id nested) := by
  unfold Context.classNeeds Context.typedProperties Python.declarationNeeds at within ⊢
  unfold Python.declaration
  extract_lets model base?
  cases split : context.splitFields id with
  | mk inherited own =>
    simp -zeta only [split, python] at within ⊢
    obtain ⟨written, declared⟩ := List.forall_mem_append.1 within
    obtain ⟨types, guards⟩ := List.forall_mem_append.1 written
    obtain ⟨named', dataclass⟩ := List.forall_mem_append.1 declared
    obtain ⟨enums, bases⟩ := List.forall_mem_append.1 named'
    have enum (definition : EnumDef) (mem : definition ∈ model.enums) :
        Gathers most [.symbol "enum" "Enum"] (enumSection definition) :=
      enumSection_gathers (enums _ (List.mem_map_of_mem mem)) definition
    have ofKind (notPlain : model.kind ≠ .plain) : Need.symbol "dataclasses" "dataclass" ∈ most ∧
        ∀ need ∈ hashNeeds (inherited ++ own), need ∈ most := by
      rw [if_neg notPlain] at dataclass
      exact List.forall_mem_cons.1 dataclass
    let ofBases : List Need := base?.toList.flatMap (baseNeeds context)
    let ofClass : List Need :=
      if model.kind = .plain then [] else [.symbol "dataclasses" "dataclass"]
    let ofHash : List Need :=
      if model.kind = .plain then [] else hashNeeds (inherited ++ own)
    -- The bases are named after the classes in the body have been written.
    refine @Gathers.of_subset _ _ (own.flatMap (context.typeNeeds ·.type) ++
      (own.flatMap context.guardNeeds ++ (model.enums.flatMap (fun _ => [.symbol "enum" "Enum"]) ++
        (least ++ (ofHash ++ (ofBases ++ ofClass)))))) _ _ ?_ fun need mem => ?_
    · refine .bind (.mapM fun property mem =>
        fieldLine_gathers (forall_flatMap_within types property mem)) fun fields _ => ?_
      refine .bind (checkSections_gathers python named guards) fun checks _ => ?_
      refine .bind (.mapM enum) fun enums _ => inner.bind fun inner _ => ?_
      extract_lets hashed
      have rest (hash : List Section) : Gathers most (ofBases ++ ofClass) (hashed hash) :=
        superclass_gathers bases fun _ => dataclass_gathers fun notPlain => (ofKind notPlain).1
      clear_value hashed
      by_cases plain : model.kind = .plain
      · rw [if_pos plain, show ofHash = [] from if_pos plain]
        exact .bind_right (.pure []) fun hash _ => rest hash
      · rw [if_neg plain, show ofHash = hashNeeds (inherited ++ own) from if_neg plain]
        exact .bind (hashSections_gathers (ofKind plain).2) fun hash _ => rest hash
    · by_cases plain : model.kind = .plain <;>
        simp only [List.mem_append, List.map_eq_flatMap, List.mem_cons, List.not_mem_nil, model,
          base?, plain, if_true, if_false, ofBases, ofHash, ofClass] at mem ⊢ <;>
        tauto

end Python

end

/-! ## Files -/

def Context.writtenNeeds (context : Context) (id : ClassId) : List Need :=
  (context.within id).classNeeds id

section

variable {context : Context} {most : Set Need} {least : List Need} {id top : ClassId}
  {nested : Emit (List Section)}

/-- The text of a class gathers what the class needs, and what the classes in it do. -/
theorem declarationText_gathers
    (named : ∀ id, (boxed? (context.graph.get id).name).isSome = false)
    (within : ∀ need ∈ context.classNeeds id, need ∈ most) (inner : Gathers most least nested) :
    Gathers most (context.classNeeds id ++ least) (context.declarationText id nested) := by
  unfold Context.declarationText
  split
  · exact (Kotlin.declaration_gathers ‹_› named within inner).map _
  · exact (Java.declaration_gathers ‹_› named within inner).map _
  · exact (Python.declaration_gathers ‹_› named within inner).map _

mutual

/-- The text of a class needs what the classes of its outline do. -/
theorem classText_gathers (named : ∀ id, (boxed? (context.graph.get id).name).isSome = false) :
    (tree : ClassTree) →
    (∀ need ∈ (context.outline tree).classes.flatMap context.writtenNeeds, need ∈ most) →
      Gathers most ((context.outline tree).classes.flatMap context.writtenNeeds)
        (context.classText tree)
  | .node id nested, within => by
    rw [Context.outline, ClassTree.classes, List.flatMap_cons] at within ⊢
    obtain ⟨here, inside⟩ := List.forall_mem_append.1 within
    rw [Context.classText]
    exact @declarationText_gathers (context.within id) _ _ _ _ named here
      (nestedSections_gathers named nested inside)

/-- The sections of nested classes need what the classes of their outlines do. -/
theorem nestedSections_gathers
    (named : ∀ id, (boxed? (context.graph.get id).name).isSome = false) :
    (trees : List ClassTree) →
    (∀ need ∈ (ClassTree.classesOfAll (context.outlines trees)).flatMap context.writtenNeeds,
      need ∈ most) →
      Gathers most
        ((ClassTree.classesOfAll (context.outlines trees)).flatMap context.writtenNeeds)
        (context.nestedSections trees)
  | [], _ => by
    rw [Context.nestedSections]
    exact .pure _
  | tree :: rest, within => by
    rw [Context.outlines] at within ⊢
    rw [Context.nestedSections]
    split
    · rename_i apart
      rw [if_pos apart] at within
      exact nestedSections_gathers named rest within
    · rename_i inside
      rw [if_neg inside, ClassTree.classesOfAll, List.flatMap_append] at within
      rw [ClassTree.classesOfAll, List.flatMap_append]
      obtain ⟨first, others⟩ := List.forall_mem_append.1 within
      exact (classText_gathers named tree first).bind fun _ _ =>
        (nestedSections_gathers named rest others).bind_left fun _ _ => .pure _

end

/-- In Kotlin and Java no class stands apart. -/
theorem Context.outline_classes_perm (context : Context) (notPython : context.language ≠ .python)
    (tree : ClassTree) : (context.outline tree).classes.Perm tree.classes := by
  have none : context.apartIn tree = [] := by
    rw [← List.map_eq_nil_iff, context.map_id_apartIn]
    simp [Context.standsApart, notPython]
  simpa [none, Context.outlined] using (context.classes_perm tree).symm

variable {source : Source} {s : BuildState}

def Context.fileNeeds (context : Context) (top : ClassId) : List Need :=
  (context.graph.tree top).classes.flatMap context.writtenNeeds

/-- The body of a file needs what the classes of the file do. -/
theorem fileBody_gathers (sound : s.Sound source) (ordered : s.Ordered)
    (graph : context.graph = s.graph) (mem : top ∈ s.topLevel) :
    Gathers {need | need ∈ context.fileNeeds top} (context.fileNeeds top)
      (context.fileBody top) := by
  have named (id : ClassId) : (boxed? (context.graph.get id).name).isSome = false :=
    graph ▸ sound.boxed?_name id
  unfold Context.fileBody
  split
  · rename_i python
    obtain ⟨order, found, isOrder⟩ := Python.hoistingOrder_eq_ok sound ordered graph python mem
    have perm := Python.declared_perm sound.nesting graph python mem isOrder
    have needed : ((context.outline (context.graph.tree top)).classes.flatMap
        context.writtenNeeds ++ order.flatMap fun id =>
          (context.outline (context.graph.tree id)).classes.flatMap context.writtenNeeds).Perm
        (context.fileNeeds top) := by
      have perm := perm.flatMap_right context.writtenNeeds
      rwa [Python.declared, List.flatMap_assoc, List.flatMap_cons, ← graph] at perm
    obtain ⟨first, others⟩ := List.forall_mem_append.1 fun need mem => needed.subset mem
    refine .bind_left ?_ fun _ _ => .pure _
    refine .of_subset ?_ needed.symm.subset
    unfold moduleBlocks
    extract_lets graph
    refine (classText_gathers named _ first).bind fun text _ =>
      .ofExcept_bind fun order' found' => ?_
    obtain rfl := Except.ok.inj (found.symm.trans found')
    refine .bind_left (.mapM fun id mem => .bind_left (classText_gathers named _
      (forall_flatMap_within others id mem)) fun _ _ => .pure _) fun _ _ => ?_
    exact .bind_left .get fun _ _ => .bind_left (.ofExcept _) fun _ _ => .pure _
  · rename_i notPython
    have needed := (context.outline_classes_perm notPython
      (context.graph.tree top)).flatMap_right context.writtenNeeds
    exact (classText_gathers named _ fun need mem => needed.subset mem).of_subset
      needed.symm.subset

/-- What has been gathered for a file is what its classes need, each need once. -/
theorem has_iff_of_fileBody (sound : s.Sound source) (ordered : s.Ordered)
    (graph : context.graph = s.graph) (mem : top ∈ s.topLevel) {body : String}
    {needs : Requirements} (run : context.fileBody top {} = .ok body needs) :
    (∀ need, needs.Has need ↔ need ∈ context.fileNeeds top) ∧ needs.Distinct := by
  have grows := fileBody_gathers sound ordered graph mem _ _ _ run
  refine ⟨fun need => ⟨fun has => ?_, grows.least need⟩, grows.distinct Requirements.distinct_empty⟩
  exact (grows.most need has).resolve_left (Requirements.not_has_empty need)

end

end SchemaClasses
