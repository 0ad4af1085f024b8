import Mathlib.Data.List.Find
import SchemaClasses.Emit.File
import SchemaClasses.Proofs.Emit.Hoisting
import SchemaClasses.Proofs.Emit.Superclasses
import SchemaClasses.Proofs.Model.Renaming

/-!
# Names of copied classes

A class is written by the same name where it stands in a copy of its file, and so are the types that
it is a part of: what a name is looked up in are copies, and which of them is found first does not
depend on their numbers.

## Main definitions

* `Context.CopiedBy`: a place in a copy of a file.

## Main statements

* `Context.withSuperclasses_size`: as many steps as there are classes find all superclasses.
* `Context.CopiedBy.visibleClasses_eq`: the classes whose members are seen are copies.
* `Context.CopiedBy.classTypeName_eq`, `Context.CopiedBy.typeName_eq`: classes and types have the
  same names.
-/

namespace SchemaClasses

variable {f : ClassId → ClassId}

/-- A text stands in the file of another graph where it stands in the file of this one, up to the
numbers of the classes. -/
structure Context.CopiedBy (context context' : Context) {top : ClassId}
    (part : context.graph.Part top) (f : ClassId → ClassId) : Prop where
  graph : part.CopiedBy context'.graph f
  settings : context'.settings = context.settings
  language : context'.language = context.language
  file : context.file = some top
  file' : context'.file = some (f top)
  body : context'.body = context.body.map f
  inside : ∀ id ∈ context.body, part.written id

/-- Steps for the members of a list may be made for other members that they do not differ on. -/
theorem mapM_map_congr {m : Type → Type} [Monad m] [LawfulMonad m] {α β γ : Type} {F : β → m γ}
    {F' : α → m γ} {g : β → α} {xs : List β} (same : ∀ x ∈ xs, F' (g x) = F x) :
    (xs.map g).mapM F' = xs.mapM F := by
  induction xs with
  | nil => rfl
  | cons x xs ih =>
    obtain ⟨first, rest⟩ := List.forall_mem_cons.1 same
    rw [List.map_cons, List.mapM_cons, List.mapM_cons, first, ih rest]

/-! ## Superclasses -/

namespace Context

variable {context : Context} {top id : ClassId}

theorem withSuperclasses_none (fuel : Nat) (seen : List ClassId) :
    context.withSuperclasses fuel seen none = seen := by
  cases fuel <;> rfl

/-- More steps than there are superclasses find no more of them. -/
theorem withSuperclasses_add {fuel : Nat} {seen : List ClassId} {start : Option ClassId}
    (short : (context.superclasses (fuel + 1) start).length ≤ fuel) (extra : Nat) :
    context.withSuperclasses (fuel + extra) seen start =
      context.withSuperclasses fuel seen start := by
  induction fuel generalizing seen start with
  | zero =>
    cases start with
    | none => rw [withSuperclasses_none, withSuperclasses_none]
    | some id => simp [superclasses] at short
  | succ fuel ih =>
    cases start with
    | none => rw [withSuperclasses_none, withSuperclasses_none]
    | some id =>
      rw [Nat.add_right_comm, withSuperclasses, withSuperclasses]
      rw [superclasses, List.length_cons] at short
      rw [ih (Nat.le_of_succ_le_succ short)]

/-- As many steps as there are classes find all superclasses. -/
theorem withSuperclasses_size (bases : context.graph.Founded (·.base)) {start : Option ClassId}
    (inside : ∀ id ∈ start, id < context.graph.size) (seen : List ClassId) (extra : Nat) :
    context.withSuperclasses context.graph.size seen start =
      context.withSuperclasses (context.graph.size + extra) seen start := by
  refine (withSuperclasses_add ?_ extra).symm
  exact (superclasses_prefix_chainFrom _ _).length_le.trans (bases.length_chainFrom_le _ inside)

variable {part : context.graph.Part top}

theorem shown_of_superclass? (part : context.graph.Part top) (shown : part.shown id)
    {base : ClassId} (found : context.superclass? id = some base) : part.shown base :=
  part.base_shown shown (base_of_superclass? found)

/-- The superclasses that are searched are shown, if those to begin with are. -/
theorem shown_withSuperclasses (part : context.graph.Part top) {fuel : Nat} {seen : List ClassId}
    {start : Option ClassId} (seenShown : ∀ id ∈ seen, part.shown id)
    (startShown : ∀ id ∈ start, part.shown id) :
    ∀ id ∈ context.withSuperclasses fuel seen start, part.shown id := by
  induction fuel generalizing seen start with
  | zero => exact seenShown
  | succ fuel ih =>
    cases start with
    | none => exact seenShown
    | some id =>
      rw [withSuperclasses]
      split
      · exact seenShown
      · have shown := startShown id rfl
        refine ih (fun other mem => ?_) fun base found => shown_of_superclass? part shown found
        rcases List.mem_append.1 mem with mem | mem
        · exact seenShown other mem
        · exact List.mem_singleton.1 mem ▸ shown

end Context

namespace Context.CopiedBy

variable {context context' : Context} {top id : ClassId} {part : context.graph.Part top}
  (h : context.CopiedBy context' part f)
include h

theorem canExtend_eq {base : ClassId} (shown : part.shown id) (shownBase : part.shown base) :
    context'.canExtend (f id) (f base) = context.canExtend id base := by
  have named := part.named_of_shown shown
  have namedBase := part.named_of_shown shownBase
  have around := h.graph.contains_eq (fun _ mem => part.named_of_mem_enclosing namedBase mem) named
  simp only [canExtend, h.language, h.graph.kind shownBase, h.graph.enclosing_eq namedBase, around,
    h.graph.bne_eq namedBase named]

/-- The superclass of a copy is the copy of the superclass. -/
theorem superclass?_eq (shown : part.shown id) :
    context'.superclass? (f id) = (context.superclass? id).map f := by
  unfold superclass?
  rw [h.graph.base shown]
  cases found : (context.graph.get id).base with
  | none => rfl
  | some base =>
    have same := h.canExtend_eq shown (part.base_shown shown found)
    rw [Option.map_some, Option.filter_some, Option.filter_some, same]
    split <;> rfl

/-- The properties of a copy are the copies of the properties, inherited ones and own ones. -/
theorem splitFields_eq (shown : part.shown id) : context'.splitFields (f id) =
    ((context.splitFields id).1.map (·.rename f), (context.splitFields id).2.map (·.rename f)) := by
  unfold splitFields
  rw [h.superclass?_eq shown]
  cases found : context.superclass? id with
  | none => rw [Option.map_none, h.graph.allProperties_eq shown]; rfl
  | some base =>
    have shownBase := shown_of_superclass? part shown found
    simp only [Option.map_some, h.graph.properties shown, h.graph.allProperties_eq shownBase]

/-- The superclasses of copies are the copies of the superclasses, in the same order. -/
theorem withSuperclasses_eq {seen : List ClassId} {start : Option ClassId}
    (seenShown : ∀ id ∈ seen, part.shown id) (startShown : ∀ id ∈ start, part.shown id) :
    context'.withSuperclasses context'.graph.size (seen.map f) (start.map f) =
      (context.withSuperclasses context.graph.size seen start).map f := by
  have inside : ∀ id ∈ start, id < context.graph.size := fun id mem =>
    part.inside (part.named_of_shown (startShown id mem))
  have inside' : ∀ id ∈ start.map f, id < context'.graph.size := by
    intro id mem
    obtain ⟨other, given, rfl⟩ := Option.mem_map.1 mem
    exact h.graph.inside (part.named_of_shown (startShown other given))
  rw [withSuperclasses_size h.graph.bases inside' _ context.graph.size,
    withSuperclasses_size part.bases inside _ context'.graph.size, Nat.add_comm]
  clear inside inside'
  -- The induction is on the number of steps, which are now the same.
  induction context.graph.size + context'.graph.size generalizing seen start with
  | zero => rfl
  | succ fuel ih =>
    cases start with
    | none => rfl
    | some id =>
      have shown := startShown id rfl
      have known := h.graph.contains_eq (fun other mem => part.named_of_shown (seenShown other mem))
        (part.named_of_shown shown)
      rw [Option.map_some, withSuperclasses, withSuperclasses, known, h.superclass?_eq shown]
      split
      · rfl
      · rw [← List.map_singleton, ← List.map_append]
        refine ih (fun other mem => ?_) fun base found => shown_of_superclass? part shown found
        rcases List.mem_append.1 mem with mem | mem
        · exact seenShown other mem
        · exact List.mem_singleton.1 mem ▸ shown

/-! ## Names of classes -/

/-- The classes whose members are seen are copies, too. -/
theorem visibleClasses_eq : context'.visibleClasses = context.visibleClasses.map f ∧
    ∀ id ∈ context.visibleClasses, part.shown id := by
  unfold visibleClasses
  rw [h.body, h.language]
  cases body : context.body with
  | none => simp
  | some id =>
    have written := h.inside id body
    have shown := part.shown_of_written written
    have fold (outers seen : List ClassId) (outersShown : ∀ outer ∈ outers, part.shown outer)
        (seenShown : ∀ id ∈ seen, part.shown id) :
        (outers.map f).foldl (fun seen outer =>
          context'.withSuperclasses context'.graph.size seen (some outer)) (seen.map f) =
        (outers.foldl (fun seen outer =>
          context.withSuperclasses context.graph.size seen (some outer)) seen).map f ∧
        ∀ id ∈ outers.foldl (fun seen outer =>
          context.withSuperclasses context.graph.size seen (some outer)) seen, part.shown id := by
      induction outers generalizing seen with
      | nil => exact ⟨rfl, seenShown⟩
      | cons outer rest ih =>
        obtain ⟨first, others⟩ := List.forall_mem_cons.1 outersShown
        have start : ∀ id ∈ some outer, part.shown id := fun id mem => Option.some.inj mem ▸ first
        rw [List.map_cons, List.foldl_cons, List.foldl_cons, ← Option.map_some,
          h.withSuperclasses_eq seenShown start]
        exact ih _ others (shown_withSuperclasses part seenShown start)
    have outers : ∀ outer ∈ id :: context.graph.enclosing id, part.shown outer := by
      intro outer mem
      rcases List.mem_cons.1 mem with rfl | mem
      · exact shown
      · exact part.shown_of_written (part.written_of_mem_enclosing written mem)
    have folded := fold (id :: context.graph.enclosing id) [] outers fun _ mem => by cases mem
    rw [List.map_cons, ← h.graph.enclosing_eq (part.named_of_shown shown), List.map_nil] at folded
    rw [Option.map_some]
    cases context.language with
    | kotlin | java => exact folded
    | python => simpa using shown

/-- A name is hidden in a class as it is in the copy. -/
theorem hidesIn_eq {scope : ClassId} (named : part.named id) (shown : part.shown scope) :
    hidesIn context'.graph (f id) (f scope) = hidesIn context.graph id scope := by
  have inner : ((context.graph.get scope).nested.map f).find? (fun inner =>
        (context'.graph.get inner).name = (context.graph.get id).name) =
      ((context.graph.get scope).nested.find? fun inner =>
        (context.graph.get inner).name = (context.graph.get id).name).map f := by
    rw [List.find?_map]
    refine congrArg _ (List.find?_congr fun inner mem => ?_)
    rw [Function.comp_apply, h.graph.name (part.nested_named shown mem)]
  unfold hidesIn
  simp only [h.graph.name named, h.graph.nested shown, h.graph.enums shown, inner, List.any_map]
  cases found : (context.graph.get scope).nested.find? fun inner =>
      (context.graph.get inner).name = (context.graph.get id).name with
  | none => rfl
  | some inner =>
    have namedInner := part.nested_named shown (List.mem_of_find?_eq_some found)
    simp only [Option.map_some, h.graph.bne_eq namedInner named]

/-- A name is hidden in a context as it is in the copy of the context. -/
theorem isHidden_eq (named : part.named id) : context'.isHidden (f id) = context.isHidden id := by
  obtain ⟨eq, shown⟩ := h.visibleClasses_eq
  unfold isHidden
  rw [eq, List.findSome?_map]
  congr 1
  clear eq
  generalize context.visibleClasses = scopes at shown ⊢
  induction scopes with
  | nil => rfl
  | cons scope rest ih =>
    obtain ⟨first, others⟩ := List.forall_mem_cons.1 shown
    rw [List.findSome?_cons, List.findSome?_cons, Function.comp_apply, h.hidesIn_eq named first,
      ih others]

theorem file_iff (named : part.named id) :
    context'.file = some (f id) ↔ context.file = some id := by
  rw [h.file, h.file', Option.some_inj, Option.some_inj]
  exact ⟨h.graph.injective (part.named_of_written part.top_written) named, congrArg f⟩

/-- A name that is hidden for a class is hidden for its copy. -/
theorem qualify_eq (named : part.named id) (inner : List String) :
    context'.qualify (f id) inner = context.qualify id inner := by
  have scope : context'.body.map context'.graph.qualifiedName =
      context.body.map context.graph.qualifiedName := by
    rw [h.body, Option.map_map]
    refine Option.map_congr fun body mem => ?_
    exact h.graph.qualifiedName_eq (part.named_of_written (h.inside body mem))
  simp only [qualify, h.graph.name named, h.graph.package named, h.isHidden_eq named, h.language,
    h.file_iff named, scope]

theorem classTypeName_eq (named : part.named id) :
    context'.classTypeName (f id) = context.classTypeName id := by
  unfold classTypeName
  rw [h.graph.topLevel_eq named, h.graph.nameChain_eq named,
    h.qualify_eq (part.named_topLevel named)]

theorem enumTypeName_eq {definition : EnumDef} (named : part.named definition.owner) :
    context'.enumTypeName (definition.rename f) = context.enumTypeName definition := by
  unfold enumTypeName
  change context'.qualify (context'.graph.topLevel (f definition.owner))
    ((context'.graph.nameChain (f definition.owner)).tail ++ [definition.name]) = _
  rw [h.graph.topLevel_eq named, h.graph.nameChain_eq named,
    h.qualify_eq (part.named_topLevel named)]

/-- A text in another body of the same file. -/
theorem inBody {body : Option ClassId} (inside : ∀ id ∈ body, part.written id) :
    CopiedBy { context with body } { context' with body := body.map f } part f :=
  ⟨h.graph, h.settings, h.language, h.file, h.file', rfl, inside⟩

theorem superclassName_eq (written : part.written id) {base : ClassId} (named : part.named base) :
    context'.superclassName (f id) (f base) = context.superclassName id base := by
  unfold superclassName
  rw [h.graph.enclosing (part.named_of_written written)]
  exact (h.inBody fun _ found => part.around_written written found).classTypeName_eq named

/-! ## Types -/

/-- By induction on the type: it is written like its copy, whose classes have the same names. -/
theorem typeName_eq {type : TypeRef} (named : ∀ other ∈ type.mentioned, part.named other)
    (nullable : Bool) :
    context'.typeName nullable (type.rename f) = context.typeName nullable type := by
  have finish (nullable : Bool) (name : String) :
      typeName.finish context' nullable name = typeName.finish context nullable name := by
    unfold typeName.finish
    rw [h.language]
  induction type generalizing nullable with
  | primitive | undetermined | absent => simp only [TypeRef.rename, typeName, h.language, finish]
  | ofClass id =>
    simp only [TypeRef.rename, typeName, finish,
      h.classTypeName_eq (named id (List.mem_singleton_self id))]
  | sequence item _ ih => simp only [TypeRef.rename, typeName, h.language, finish, ih named]
  | map value ih => simp only [TypeRef.rename, typeName, h.language, finish, ih named]
  | enum definition =>
    simp only [TypeRef.rename, typeName, finish,
      h.enumTypeName_eq (named definition.owner (List.mem_singleton_self _))]

theorem defaultValue_eq {type : TypeRef} (named : ∀ other ∈ type.mentioned, part.named other)
    (value : Value) :
    context'.defaultValue value (type.rename f) = context.defaultValue value type := by
  cases type with
  | enum definition =>
    simp only [TypeRef.rename, defaultValue, h.language,
      h.enumTypeName_eq (named definition.owner (List.mem_singleton_self _))]
    rfl
  | _ => simp only [TypeRef.rename, defaultValue, h.language, TypeRef.primitive?]

end Context.CopiedBy

end SchemaClasses
