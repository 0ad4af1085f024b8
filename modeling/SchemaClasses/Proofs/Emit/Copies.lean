import SchemaClasses.Proofs.Emit.Renaming

/-!
# Files of copied classes

The file of a class is the same in every graph that has a copy of what it draws on: each part of it,
in each language, is written from the names, the properties and the places of classes, and not from
their numbers. The hoisted classes of a file in Python are declared in the same order.

## Main definitions

* `ClassGraph.Part.Names`: the classes in the type of a property are among the named ones.
* `Python.Copied`: classes are placed in the order of declaration as their copies are.

## Main statements

* `Python.hoistingOrder_copy`: the order of declaration of a copy is a copy of the order.
* `Context.CopiedBy.classText_eq`: a class with everything nested in it is written as its copy is.
* `ClassGraph.Part.CopiedBy.fileText_eq`: the file of a copy is that of the class.
-/

namespace SchemaClasses

variable {f : ClassId → ClassId}

def ClassGraph.Part.Names {graph : ClassGraph} {top : ClassId} (part : graph.Part top)
    (property : Property) : Prop :=
  ∀ other ∈ property.type.mentioned, part.named other

/-! ## Properties by themselves -/

namespace Property

variable (f : ClassId → ClassId) (property : Property)

@[simp] theorem name_rename : (property.rename f).name = property.name := rfl

@[simp] theorem type_rename : (property.rename f).type = property.type.rename f := rfl

@[simp] theorem nullable_rename : (property.rename f).nullable = property.nullable := rfl

@[simp] theorem required_rename : (property.rename f).required = property.required := rfl

@[simp] theorem default?_rename : (property.rename f).default? = property.default? := rfl

@[simp] theorem fieldName_rename (language : TargetLanguage) :
    fieldName language (property.rename f) = fieldName language property := rfl

@[simp] theorem guards_rename : (property.rename f).guards = property.guards := by
  unfold guards
  simp only [rename]
  cases property.type with
  | sequence item => cases item <;> rfl
  | _ => rfl

end Property

@[simp] theorem needsFreezing_rename (f : ClassId → ClassId) (type : TypeRef) :
    needsFreezing (type.rename f) = needsFreezing type := by
  cases type <;> rfl

theorem TypeRef.item?_rename (f : ClassId → ClassId) (type : TypeRef) :
    (type.rename f).item? = type.item?.map (·.rename f) := by
  cases type <;> rfl

theorem comparedType_rename (f : ClassId → ClassId) (guard : Guard) (property : Property) :
    comparedType guard (property.rename f) = (comparedType guard property).map (·.rename f) := by
  unfold comparedType
  simp only [Property.type_rename, TypeRef.item?_rename]
  cases property.type.item? with
  | none => cases guard.element <;> rfl
  | some item =>
    simp only [Option.map_some, bind, Except.bind, TypeRef.item?_rename]
    cases item.item? <;> cases guard.element <;> rfl

theorem freezingKey_rename (f : ClassId → ClassId) (guard : Guard) (property : Property) :
    freezingKey guard (property.rename f) = freezingKey guard property := by
  unfold freezingKey
  rw [comparedType_rename]
  cases comparedType guard property with
  | error failure => rfl
  | ok type => simp only [Except.map, Emit.ofExcept, pure_bind, needsFreezing_rename]

namespace ClassGraph.Part

variable {context : Context} {top id : ClassId} (part : context.graph.Part top)

/-- The classes in the types of what a class inherits and of what it declares are named. -/
theorem names_splitFields (shown : part.shown id) :
    (∀ property ∈ (context.splitFields id).1, part.Names property) ∧
      ∀ property ∈ (context.splitFields id).2, part.Names property := by
  have all {id : ClassId} (shown : part.shown id) :
      ∀ property ∈ context.graph.allProperties id, part.Names property := fun _ mem _ mentioned =>
    part.named_of_mem_allProperties shown mem mentioned
  unfold Context.splitFields
  cases found : context.superclass? id with
  | none => exact ⟨fun _ mem => (by cases mem), all shown⟩
  | some base =>
    exact ⟨all (Context.shown_of_superclass? part shown found), fun _ mem _ mentioned =>
      part.mentioned_named shown mem mentioned⟩

end ClassGraph.Part

namespace Context.CopiedBy

variable {context context' : Context} {top id : ClassId} {part : context.graph.Part top}
  (h : context.CopiedBy context' part f) {property : Property}
include h

theorem fieldType_eq (named : part.Names property) :
    context'.fieldType (property.rename f) = context.fieldType property :=
  h.typeName_eq named _

theorem impliedByType_eq (named : part.Names property) :
    context'.impliedByType (property.rename f) = context.impliedByType property := by
  funext guard
  simp only [impliedByType, h.language, h.fieldType_eq named]

theorem writtenGuards_eq (named : part.Names property) :
    context'.writtenGuards (property.rename f) = context.writtenGuards property := by
  simp only [writtenGuards, h.settings, h.language, Property.guards_rename,
    h.impliedByType_eq named, Property.default?_rename]

/-! ## Kotlin -/

theorem kotlinParameter_eq (named : part.Names property) (declares : Bool) :
    Kotlin.parameter context' declares (property.rename f) =
      Kotlin.parameter context declares property := by
  simp only [Kotlin.parameter, Kotlin.field, Property.fieldName_rename, h.fieldType_eq named,
    Property.default?_rename, Property.nullable_rename, Property.required_rename,
    Property.type_rename, h.defaultValue_eq named]
  rfl

theorem kotlinGuards_eq (named : part.Names property) :
    Kotlin.guardsOfProperty context' (property.rename f) =
      Kotlin.guardsOfProperty context property := by
  simp only [Kotlin.guardsOfProperty, Kotlin.field, Property.fieldName_rename,
    h.writtenGuards_eq named]

variable {properties inherited : List Property}

theorem kotlinInit_eq (named : ∀ property ∈ properties, part.Names property) :
    Kotlin.initSections context' (properties.map (·.rename f)) =
      Kotlin.initSections context properties := by
  simp only [Kotlin.initSections,
    mapM_map_congr fun property mem => h.kotlinGuards_eq (named property mem)]

omit h in
theorem kotlinEquals_eq (name : String) (extendsBase : Bool) :
    Kotlin.equalsSection name extendsBase (properties.map (·.rename f)) =
      Kotlin.equalsSection name extendsBase properties := by
  simp only [Kotlin.equalsSection, List.mapM_map]
  rfl

omit h in
theorem kotlinHash_eq (extendsBase : Bool) :
    Kotlin.hashSection extendsBase (properties.map (·.rename f)) =
      Kotlin.hashSection extendsBase properties := by
  simp only [Kotlin.hashSection, List.mapM_map]
  rfl

/-- The superclass of a copy is called by the same name with the same arguments. -/
theorem kotlinSuperclass_eq (properties : List Property) (written : part.written id)
    (base? : Option ClassId) (named : ∀ base ∈ base?, part.named base) :
    Kotlin.superclassCall context' (f id) (properties.map (·.rename f)) (base?.map f) =
      Kotlin.superclassCall context id properties base? := by
  cases base? with
  | none => rfl
  | some base =>
    simp only [Option.map_some, Kotlin.superclassCall,
      h.superclassName_eq written (named base rfl), List.mapM_map]
    rfl

/-- A class and its copy are declared by the same Kotlin text. -/
theorem kotlinDeclaration_eq (written : part.written id) (nested : Emit (List Section)) :
    Kotlin.declaration context' (f id) nested = Kotlin.declaration context id nested := by
  have shown := part.shown_of_written written
  obtain ⟨inheritedNames, ownNames⟩ := part.names_splitFields shown
  have supertype := h.kotlinSuperclass_eq (context.splitFields id).1 written
    (context.superclass? id) fun base found =>
      part.named_of_shown (shown_of_superclass? part shown found)
  unfold Kotlin.declaration
  rw [h.splitFields_eq shown, h.superclass?_eq shown]
  cases split : context.splitFields id with
  | mk inherited own =>
    rw [split] at supertype inheritedNames ownNames
    simp only [supertype, h.graph.name (part.named_of_shown shown), h.graph.kind shown,
      h.graph.enums shown, List.mapM_map, h.kotlinInit_eq ownNames, Option.isSome_map,
      kotlinEquals_eq, kotlinHash_eq,
      mapM_map_congr fun property mem => h.kotlinParameter_eq (inheritedNames property mem) false,
      mapM_map_congr fun property mem => h.kotlinParameter_eq (ownNames property mem) true]
    rfl

/-! ## Java -/

theorem javaParameter_eq (named : part.Names property) :
    Java.parameter context' (property.rename f) = Java.parameter context property := by
  simp only [Java.parameter, Java.parameterType, Java.field, Property.fieldName_rename,
    Property.nullable_rename, Property.default?_rename, Property.type_rename, h.typeName_eq named]

theorem javaFieldLine_eq (named : part.Names property) :
    Java.fieldLine context' (property.rename f) = Java.fieldLine context property := by
  simp only [Java.fieldLine, Java.field, Property.fieldName_rename, h.fieldType_eq named]

theorem javaLoopType_eq (named : part.Names property) :
    Java.loopType context' (property.rename f) = Java.loopType context property := by
  unfold Java.loopType
  rw [Property.type_rename]
  cases type : property.type with
  | sequence item =>
    refine h.typeName_eq (fun other mem => named other ?_) true
    rw [type]
    exact mem
  | _ => rfl

theorem javaAssignment_eq (named : part.Names property) :
    Java.assignment context' (property.rename f) = Java.assignment context property := by
  simp only [Java.assignment, Java.field, Property.fieldName_rename, h.javaLoopType_eq named,
    h.writtenGuards_eq named, Property.default?_rename, Property.type_rename,
    h.defaultValue_eq named]

/-- Constructors of copies are the same, since the types and the guards of the properties are. -/
theorem javaConstructor_eq (name : String) (extendsBase : Bool)
    (inheritedNames : ∀ property ∈ inherited, part.Names property)
    (ownNames : ∀ property ∈ properties, part.Names property) :
    Java.constructorSections context' name extendsBase (inherited.map (·.rename f))
        (properties.map (·.rename f)) =
      Java.constructorSections context name extendsBase inherited properties := by
  have parameters : (inherited.map (·.rename f) ++ properties.map (·.rename f)).mapM
      (Java.parameter context') = (inherited ++ properties).mapM (Java.parameter context) := by
    rw [← List.map_append]
    refine mapM_map_congr fun property mem => h.javaParameter_eq ?_
    exact (List.mem_append.1 mem).elim (inheritedNames property) (ownNames property)
  simp only [Java.constructorSections, Java.constructorSection, parameters, List.isEmpty_map,
    List.mapM_map, mapM_map_congr fun property mem => h.javaAssignment_eq (ownNames property mem)]
  rfl

theorem javaGetter_eq (named : part.Names property) :
    Java.getterSection context' (property.rename f) = Java.getterSection context property := by
  simp only [Java.getterSection, Java.field, Property.fieldName_rename, h.fieldType_eq named]

theorem javaEqualTest_eq (named : part.Names property) :
    Java.equalTest context' (property.rename f) = Java.equalTest context property := by
  simp only [Java.equalTest, Java.field, Property.fieldName_rename, h.fieldType_eq named,
    Property.nullable_rename]
  rfl

theorem javaUnequalTest_eq (named : part.Names property) :
    Java.unequalTest context' (property.rename f) = Java.unequalTest context property := by
  simp only [Java.unequalTest, Java.field, Property.fieldName_rename, h.fieldType_eq named,
    Property.nullable_rename, h.javaEqualTest_eq named]

/-- Fields are compared by their types without what these name. -/
theorem javaComparison_eq (named : ∀ property ∈ properties, part.Names property) :
    Java.comparisonLines context' (properties.map (·.rename f)) =
      Java.comparisonLines context properties := by
  induction properties with
  | nil => rfl
  | cons property rest ih =>
    obtain ⟨first, others⟩ := List.forall_mem_cons.1 named
    cases rest with
    | nil =>
      simp only [List.map_cons, List.map_nil, Java.comparisonLines, h.javaEqualTest_eq first]
    | cons next rest =>
      have same := ih others
      simp only [List.map_cons] at same
      simp only [List.map_cons, Java.comparisonLines, h.javaUnequalTest_eq first, same]

theorem javaEquals_eq (name : String) (extendsBase : Bool)
    (named : ∀ property ∈ properties, part.Names property) :
    Java.equalsSection context' name extendsBase (properties.map (·.rename f)) =
      Java.equalsSection context name extendsBase properties := by
  simp only [Java.equalsSection, List.isEmpty_map, h.javaComparison_eq named]

theorem javaHashTerm_eq (named : part.Names property) :
    Java.hashTerm context' (property.rename f) = Java.hashTerm context property := by
  simp only [Java.hashTerm, Java.field, Property.fieldName_rename, h.fieldType_eq named,
    Property.nullable_rename]
  rfl

theorem javaHash_eq (extendsBase : Bool)
    (named : ∀ property ∈ properties, part.Names property) :
    Java.hashSection context' extendsBase (properties.map (·.rename f)) =
      Java.hashSection context extendsBase properties := by
  simp only [Java.hashSection,
    mapM_map_congr fun property mem => h.javaHashTerm_eq (named property mem)]

/-- A class and its copy are declared by the same Java text. -/
theorem javaDeclaration_eq (written : part.written id) (nested : Emit (List Section)) :
    Java.declaration context' (f id) nested = Java.declaration context id nested := by
  have shown := part.shown_of_written written
  have named := part.named_of_shown shown
  obtain ⟨inheritedNames, ownNames⟩ := part.names_splitFields shown
  have superclass : ∀ base, context.superclass? id = some base →
      context'.superclassName (f id) (f base) = context.superclassName id base := fun base found =>
    h.superclassName_eq written (part.named_of_shown (shown_of_superclass? part shown found))
  unfold Java.declaration
  rw [h.splitFields_eq shown, h.superclass?_eq shown]
  cases split : context.splitFields id with
  | mk inherited own =>
    rw [split] at inheritedNames ownNames
    simp only [h.graph.name named, h.graph.kind shown, h.graph.enums shown, h.graph.enclosing named,
      List.isEmpty_map, Option.isSome_map, h.javaConstructor_eq _ _ inheritedNames ownNames,
      h.javaEquals_eq _ _ ownNames, h.javaHash_eq _ ownNames,
      mapM_map_congr fun property mem => h.javaFieldLine_eq (ownNames property mem),
      mapM_map_congr fun property mem => h.javaGetter_eq (ownNames property mem), List.mapM_map]
    cases found : context.superclass? id with
    | none => rfl
    | some base =>
      simp only [Option.map_some, superclass base found]
      rfl

/-! ## Python -/

/-- A field of a copy has the same line: its type is named in the same way. -/
theorem pythonFieldLine_eq (namedId : part.named id) (named : part.Names property) :
    Python.fieldLine context' (f id) (property.rename f) =
      Python.fieldLine context id property := by
  have default (value : Value) := h.defaultValue_eq named value
  unfold Python.fieldLine Python.field
  simp only [Property.fieldName_rename, h.fieldType_eq named, Property.default?_rename,
    Property.type_rename, Property.nullable_rename, Property.required_rename, Property.name_rename,
    default, h.graph.qualifiedName_eq namedId]
  cases type : property.type with
  | enum definition =>
    have owner : part.named definition.owner := named _ (by simp [type, TypeRef.mentioned])
    have iff : f definition.owner = f id ↔ definition.owner = id :=
      ⟨h.graph.injective owner namedId, congrArg f⟩
    simp only [TypeRef.rename, EnumDef.rename, ne_eq, iff]
    rfl
  | _ => rfl

theorem pythonGuards_eq (named : part.Names property) :
    Python.guardsOfProperty context' (property.rename f) =
      Python.guardsOfProperty context property := by
  simp only [Python.guardsOfProperty, Python.field, Property.fieldName_rename,
    h.writtenGuards_eq named, freezingKey_rename]

theorem pythonAnyGuarded_eq (named : ∀ property ∈ properties, part.Names property) :
    Python.anyGuarded context' (properties.map (·.rename f)) =
      Python.anyGuarded context properties := by
  induction properties with
  | nil => rfl
  | cons property rest ih =>
    obtain ⟨first, others⟩ := List.forall_mem_cons.1 named
    simp only [List.map_cons, Python.anyGuarded, h.writtenGuards_eq first, ih others]

theorem pythonChecks_eq (inheritedNames : ∀ property ∈ inherited, part.Names property)
    (ownNames : ∀ property ∈ properties, part.Names property) :
    Python.checkSections context' (inherited.map (·.rename f)) (properties.map (·.rename f)) =
      Python.checkSections context inherited properties := by
  simp only [Python.checkSections, h.pythonAnyGuarded_eq inheritedNames,
    mapM_map_congr fun property mem => h.pythonGuards_eq (ownNames property mem)]

omit h in
theorem pythonAnyFreezing_eq : Python.anyFreezing (properties.map (·.rename f)) =
    Python.anyFreezing properties := by
  induction properties with
  | nil => rfl
  | cons property rest ih =>
    simp only [List.map_cons, Python.anyFreezing, Property.type_rename, needsFreezing_rename, ih]

omit h in
theorem pythonHash_eq : Python.hashSections (properties.map (·.rename f)) =
    Python.hashSections properties := by
  have term (property : Property) :
      Python.hashTerm (property.rename f) = Python.hashTerm property := by
    simp only [Python.hashTerm, Python.field, Property.fieldName_rename, Property.type_rename,
      needsFreezing_rename]
  simp only [Python.hashSections, pythonAnyFreezing_eq,
    mapM_map_congr fun property _ => term property]

theorem pythonBaseName_eq (named : part.named id) :
    Python.baseName context' (f id) = Python.baseName context id := by
  have namedTop := part.named_topLevel named
  unfold Python.baseName
  simp only [h.graph.topLevel_eq named, ne_eq, h.file_iff namedTop, h.graph.name namedTop,
    h.graph.qualifiedName_eq named]

/-- A class and its copy are declared by the same Python text. -/
theorem pythonDeclaration_eq (written : part.written id) (nested : Emit (List Section)) :
    Python.declaration context' (f id) nested = Python.declaration context id nested := by
  have shown := part.shown_of_written written
  have named := part.named_of_shown shown
  obtain ⟨inheritedNames, ownNames⟩ := part.names_splitFields shown
  unfold Python.declaration
  rw [h.splitFields_eq shown, h.superclass?_eq shown]
  cases split : context.splitFields id with
  | mk inherited own =>
    rw [split] at inheritedNames ownNames
    simp only [h.graph.name named, h.graph.kind shown, h.graph.enums shown,
      h.pythonChecks_eq inheritedNames ownNames, ← List.map_append, pythonHash_eq,
      mapM_map_congr fun property mem => h.pythonFieldLine_eq named (ownNames property mem),
      List.mapM_map]
    cases found : context.superclass? id with
    | none => rfl
    | some base =>
      have shownBase := shown_of_superclass? part shown found
      simp only [Option.map_some, h.pythonBaseName_eq (part.named_of_shown shownBase)]
      rfl

theorem isHoisted_eq (shown : part.shown id) :
    Python.isHoisted context' (f id) = Python.isHoisted context id := by
  simp only [Python.isHoisted, h.graph.enclosing (part.named_of_shown shown),
    h.superclass?_eq shown, Option.isSome_map]

/-- What comes before a copy are copies of what comes before the class, which is in the same
file. -/
theorem requiredBefore_eq (written : part.written id) :
    Python.requiredBefore context' (f top) (f id) =
        (Python.requiredBefore context top id).map f ∧
      ∀ other ∈ Python.requiredBefore context top id, part.written other := by
  have shown := part.shown_of_written written
  have around {outer : ClassId} (written : part.written outer) :
      ∀ other ∈ (context.graph.enclosing outer).reverse, part.written other := fun _ mem =>
    part.written_of_mem_enclosing written (List.mem_reverse.1 mem)
  unfold Python.requiredBefore
  simp only [h.superclass?_eq shown, h.graph.enclosing_eq (part.named_of_shown shown),
    ← List.map_reverse]
  cases found : context.superclass? id with
  | none => exact ⟨rfl, around written⟩
  | some base =>
    have shownBase := shown_of_superclass? part shown found
    have namedBase := part.named_of_shown shownBase
    have inFile : context'.graph.topLevel (f base) = f top ↔ context.graph.topLevel base = top := by
      rw [h.graph.topLevel_eq namedBase]
      exact ⟨h.graph.injective (part.named_topLevel namedBase)
        (part.named_of_written part.top_written), congrArg f⟩
    simp only [Option.map_some, inFile, h.graph.enclosing_eq namedBase, ← List.map_reverse]
    split
    · rename_i same
      have writtenBase := part.written_of_topLevel shownBase same
      refine ⟨by simp, fun other mem => ?_⟩
      rcases List.mem_append.1 mem with mem | mem
      · rcases List.mem_append.1 mem with mem | mem
        · exact around written other mem
        · exact around writtenBase other mem
      · exact List.mem_singleton.1 mem ▸ writtenBase
    · exact ⟨rfl, around written⟩

end Context.CopiedBy

/-! ## Hoisting -/

namespace Python

/-- An order of declaration with other numbers for the classes. -/
def Hoisting.rename (f : ClassId → ClassId) (hoisting : Hoisting) : Hoisting :=
  ⟨hoisting.ordered.map f, hoisting.visiting.map f⟩

/-- More fuel than is needed does not change the order of declaration. -/
theorem hoist_add {context : Context} {top id : ClassId} {fuel : Nat} {hoisting after : Hoisting}
    (placed : hoist context top fuel id hoisting = .ok after) (extra : Nat) :
    hoist context top (fuel + extra) id hoisting = .ok after := by
  induction fuel generalizing id hoisting after with
  | zero =>
    rw [hoist] at placed ⊢
    split at placed
    · rename_i done
      rwa [if_pos done]
    · cases placed
  | succ fuel ih =>
    rw [Nat.add_right_comm]
    rw [hoist] at placed ⊢
    split at placed
    · rename_i done
      rwa [if_pos done]
    · rename_i pending
      rw [if_neg pending]
      simp only at placed ⊢
      split at placed
      · cases placed
      · rename_i unvisited
        rw [if_neg unvisited]
        obtain ⟨next, placed, last⟩ := Except.bind_eq_ok_iff.1 placed
        exact Except.bind_eq_ok_iff.2
          ⟨next, Except.foldlM_eq_ok_of_imp (fun _ _ _ step => ih step) placed, last⟩

structure Hoisting.Within {graph : ClassGraph} {top : ClassId} (part : graph.Part top)
    (hoisting : Hoisting) : Prop where
  ordered : ∀ id ∈ hoisting.ordered, part.written id
  visiting : ∀ id ∈ hoisting.visiting, part.written id

/-- Classes and their copies are placed alike, and what is placed is written. -/
structure Copied {graph : ClassGraph} {top : ClassId} (part : graph.Part top)
    (f : ClassId → ClassId) (placed placed' : Except Failure Hoisting) : Prop where
  eq : placed' = placed.map (·.rename f)
  within : ∀ after, placed = .ok after → after.Within part

namespace Copied

variable {graph : ClassGraph} {top : ClassId} {part : graph.Part top} {hoisting : Hoisting}
  {placed placed' : Except Failure Hoisting}

theorem of_ok (within : hoisting.Within part) :
    Copied part f (.ok hoisting) (.ok (hoisting.rename f)) :=
  ⟨rfl, fun _ eq => Except.ok.inj eq ▸ within⟩

theorem of_error (part : graph.Part top) (f : ClassId → ClassId) (failure : Failure) :
    Copied part f (.error failure) (.error failure) :=
  ⟨rfl, fun _ eq => by cases eq⟩

theorem bind (h : Copied part f placed placed') {next next' : Hoisting → Except Failure Hoisting}
    (k : ∀ after, after.Within part → Copied part f (next after) (next' (after.rename f))) :
    Copied part f (placed >>= next) (placed' >>= next') := by
  obtain ⟨rfl, within⟩ := h
  cases placed with
  | error failure => exact .of_error part f failure
  | ok after => exact k after (within after rfl)

/-- Placing copies one after the other gives the copy of the order, if it does so for each of
them. -/
theorem foldlM {place place' : ClassId → Hoisting → Except Failure Hoisting}
    (one : ∀ {id hoisting}, part.written id → hoisting.Within part →
      Copied part f (place id hoisting) (place' (f id) (hoisting.rename f)))
    {ids : List ClassId} (written : ∀ id ∈ ids, part.written id) (within : hoisting.Within part) :
    Copied part f (ids.foldlM (fun hoisting id => place id hoisting) hoisting)
      ((ids.map f).foldlM (fun hoisting id => place' id hoisting) (hoisting.rename f)) := by
  induction ids generalizing hoisting with
  | nil => exact .of_ok within
  | cons id rest ih =>
    obtain ⟨first, others⟩ := List.forall_mem_cons.1 written
    rw [List.map_cons, List.foldlM_cons, List.foldlM_cons]
    exact (one first within).bind fun after within => ih others within

end Copied

theorem Hoisting.Within.enter {graph : ClassGraph} {top id : ClassId} {part : graph.Part top}
    {hoisting : Hoisting} (h : hoisting.Within part) (written : part.written id) :
    Hoisting.Within part { hoisting with visiting := hoisting.visiting ++ [id] } :=
  ⟨h.ordered, fun other mem => (List.mem_append.1 mem).elim (h.visiting other)
    fun mem => List.mem_singleton.1 mem ▸ written⟩

theorem Hoisting.Within.place {graph : ClassGraph} {top id : ClassId} {part : graph.Part top}
    {hoisting : Hoisting} (h : hoisting.Within part) (written : part.written id) :
    Hoisting.Within part { hoisting with ordered := hoisting.ordered ++ [id] } :=
  ⟨fun other mem => (List.mem_append.1 mem).elim (h.ordered other)
    fun mem => List.mem_singleton.1 mem ▸ written, h.visiting⟩

section

variable {context context' : Context} {top id : ClassId} {part : context.graph.Part top}
  (h : context.CopiedBy context' part f)
include h

/-- A copy is placed as the class is. The induction is on the fuel, for all classes and orders. -/
theorem hoist_copy (fuel : Nat) {hoisting : Hoisting} (written : part.written id)
    (within : hoisting.Within part) :
    Copied part f (hoist context top fuel id hoisting)
      (hoist context' (f top) fuel (f id) (hoisting.rename f)) := by
  have named {id : ClassId} (written : part.written id) := part.named_of_written written
  have done {id : ClassId} {hoisting : Hoisting} (written : part.written id)
      (within : hoisting.Within part) :
      (!isHoisted context' (f id) || (hoisting.rename f).ordered.contains (f id)) =
        (!isHoisted context id || hoisting.ordered.contains id) := by
    rw [h.isHoisted_eq (part.shown_of_written written), Hoisting.rename,
      h.graph.contains_eq (fun other mem => named (within.ordered other mem)) (named written)]
  induction fuel generalizing id hoisting with
  | zero =>
    rw [hoist, hoist, done written within, h.graph.qualifiedName_eq (named written)]
    split
    · exact .of_ok within
    · exact .of_error part f _
  | succ fuel ih =>
    have visiting : (hoisting.rename f).visiting.contains (f id) = hoisting.visiting.contains id :=
      h.graph.contains_eq (fun other mem => named (within.visiting other mem)) (named written)
    obtain ⟨required, writtenRequired⟩ := h.requiredBefore_eq written
    rw [hoist, hoist, done written within]
    split
    · exact .of_ok within
    · simp only [h.graph.qualifiedName_eq (named written), visiting, required]
      split
      · exact .of_error part f _
      · have entered : { hoisting.rename f with
              visiting := (hoisting.rename f).visiting ++ [f id] } =
            Hoisting.rename f { hoisting with visiting := hoisting.visiting ++ [id] } := by
          simp [Hoisting.rename]
        rw [entered]
        refine (Copied.foldlM ih writtenRequired (within.enter written)).bind fun after within => ?_
        have placed : { after.rename f with ordered := (after.rename f).ordered ++ [f id] } =
            Hoisting.rename f { after with ordered := after.ordered ++ [id] } := by
          simp [Hoisting.rename]
        rw [placed]
        exact .of_ok (within.place written)

/-- If classes and their copies are both placed, then one order is the copy of the other. The two
files have different fuel, which both are given together. -/
theorem foldlM_hoist_copy {ids start last last' : List ClassId}
    (written : ∀ id ∈ ids, part.written id) (within : ∀ id ∈ start, part.written id)
    (placed : ids.foldlM (fun ordered id => do
      return (← hoist context top (context.graph.size + 1) id ⟨ordered, []⟩).ordered) start =
        (.ok last : Except Failure (List ClassId)))
    (placed' : (ids.map f).foldlM (fun ordered id => do
      return (← hoist context' (f top) (context'.graph.size + 1) id ⟨ordered, []⟩).ordered)
        (start.map f) = (.ok last' : Except Failure (List ClassId))) :
    last' = last.map f ∧ ∀ id ∈ last, part.written id := by
  induction ids generalizing start with
  | nil =>
    cases placed
    cases placed'
    exact ⟨rfl, within⟩
  | cons id rest ih =>
    obtain ⟨first, others⟩ := List.forall_mem_cons.1 written
    rw [List.map_cons, List.foldlM_cons] at placed'
    rw [List.foldlM_cons] at placed
    obtain ⟨_, step, placed⟩ := Except.bind_eq_ok_iff.1 placed
    obtain ⟨_, step', placed'⟩ := Except.bind_eq_ok_iff.1 placed'
    obtain ⟨after, next, eq⟩ := Except.bind_eq_ok_iff.1 step
    obtain ⟨after', next', eq'⟩ := Except.bind_eq_ok_iff.1 step'
    cases eq
    cases eq'
    have more := hoist_add next (context'.graph.size + 1)
    have more' := hoist_add next' (context.graph.size + 1)
    rw [Nat.add_comm] at more'
    have start : Hoisting.Within part ⟨start, []⟩ := ⟨within, fun _ mem => by cases mem⟩
    have copied := hoist_copy h (context.graph.size + 1 + (context'.graph.size + 1)) first start
    cases more'.symm.trans (copied.eq.trans (congrArg _ more))
    exact ih others (copied.within after more).ordered placed placed'

/-- If there are orders of declaration for both files, then one is the copy of the other. -/
theorem hoistingOrder_copy {order order' : List ClassId}
    (found : hoistingOrder context top = .ok order)
    (found' : hoistingOrder context' (f top) = .ok order') :
    order' = order.map f ∧ ∀ id ∈ order, part.written id := by
  have inTree : ∀ id ∈ (context.graph.tree top).classes.tail, part.written id := fun _ mem =>
    part.tree_written part.top_written (List.mem_of_mem_tail mem)
  unfold hoistingOrder at found found'
  rw [h.graph.tree part.top_written, ClassTree.classes_rename, ← List.map_tail] at found'
  exact foldlM_hoist_copy h inTree (fun _ mem => by cases mem) found found'

end

end Python

/-! ## Files -/

namespace Context.CopiedBy

variable {context context' : Context} {top id : ClassId} {part : context.graph.Part top}

theorem declarationText_eq (h : context.CopiedBy context' part f) (written : part.written id)
    (nested : Emit (List Section)) :
    context'.declarationText (f id) nested = context.declarationText id nested := by
  simp only [declarationText, h.language, h.kotlinDeclaration_eq written,
    h.javaDeclaration_eq written, h.pythonDeclaration_eq written]

theorem standsApart_eq (h : context.CopiedBy context' part f) (written : part.written id) :
    context'.standsApart (f id) = context.standsApart id := by
  simp only [standsApart, h.language, h.isHoisted_eq (part.shown_of_written written)]

mutual

/-- The text of a copy is that of the class, by recursion over what is nested in it. -/
theorem classText_eq (h : context.CopiedBy context' part f) :
    (tree : ClassTree) → (∀ id ∈ tree.classes, part.written id) →
      context'.classText (tree.rename f) = context.classText tree
  | .node id nested, written => by
    obtain ⟨first, others⟩ := List.forall_mem_cons.1 written
    have within : CopiedBy (context.within id) (context'.within (f id)) part f :=
      h.inBody fun _ mem => Option.some.inj mem ▸ first
    rw [ClassTree.rename, classText, classText, nestedSections_eq h nested others]
    exact within.declarationText_eq first _

/-- By induction on the trees: nested classes are written like their copies. -/
theorem nestedSections_eq (h : context.CopiedBy context' part f) :
    (trees : List ClassTree) → (∀ id ∈ ClassTree.classesOfAll trees, part.written id) →
      context'.nestedSections (ClassTree.renameAll f trees) = context.nestedSections trees
  | [], _ => rfl
  | tree :: rest, written => by
    rw [ClassTree.classesOfAll] at written
    obtain ⟨first, others⟩ := List.forall_mem_append.1 written
    have writtenId : part.written tree.id := by
      cases tree
      exact first _ List.mem_cons_self
    simp only [ClassTree.renameAll, nestedSections, ClassTree.id_rename,
      h.standsApart_eq writtenId, classText_eq h tree first, nestedSections_eq h rest others]

end

variable (h : context.CopiedBy context' part f)
include h

theorem treeText_eq (written : part.written id) :
    context'.classText (context'.graph.tree (f id)) =
      context.classText (context.graph.tree id) := by
  rw [h.graph.tree written]
  exact h.classText_eq _ fun _ mem => part.tree_written written mem

theorem checkModuleNames_eq {ids : List ClassId} (written : ∀ id ∈ ids, part.written id)
    (taken : List String) : Python.checkModuleNames context'.graph taken (ids.map f) =
      Python.checkModuleNames context.graph taken ids := by
  induction ids generalizing taken with
  | nil => rfl
  | cons id rest ih =>
    obtain ⟨first, others⟩ := List.forall_mem_cons.1 written
    have named := part.named_of_written first
    simp only [List.map_cons, Python.checkModuleNames, h.graph.name named,
      h.graph.qualifiedName_eq named, ih others]

/-- The blocks of a module are those of its hoisted classes, whose order is that of their copies. -/
theorem moduleBlocks_eq {order order' : List ClassId}
    (found : Python.hoistingOrder context top = .ok order)
    (found' : Python.hoistingOrder context' (f top) = .ok order') :
    moduleBlocks context' (f top) = moduleBlocks context top := by
  obtain ⟨rfl, written⟩ := Python.hoistingOrder_copy h found found'
  have attached : (order.map f).mapM (fun inner => do
        let text ← context'.classText (context'.graph.tree inner)
        return [text, context'.graph.qualifiedName inner ++ " = " ++
          (context'.graph.get inner).name ++ "\n"]) =
      order.mapM fun inner => do
        let text ← context.classText (context.graph.tree inner)
        return [text, context.graph.qualifiedName inner ++ " = " ++
          (context.graph.get inner).name ++ "\n"] := by
    refine mapM_map_congr fun inner mem => ?_
    have named := part.named_of_written (written inner mem)
    rw [h.treeText_eq (written inner mem), h.graph.qualifiedName_eq named, h.graph.name named]
  unfold moduleBlocks
  simp only [found, found', Emit.ofExcept, pure_bind, attached, h.treeText_eq part.top_written,
    h.graph.name (part.named_of_written part.top_written), h.checkModuleNames_eq written]

end Context.CopiedBy

/-- There is an order of declaration for the hoisted classes of a file. Only files in Python have
such classes. -/
def HasHoistingOrder (context : Context) (top : ClassId) : Prop :=
  context.language = .python → ∃ order, Python.hoistingOrder context top = .ok order

/-- The file of a copy is that of the class. -/
theorem ClassGraph.Part.CopiedBy.fileText_eq {graph graph' : ClassGraph} {top : ClassId}
    {part : graph.Part top} (copy : part.CopiedBy graph' f) (settings : Settings)
    (language : TargetLanguage)
    (found : HasHoistingOrder { graph, settings, language, file := some top } top)
    (found' :
      HasHoistingOrder { graph := graph', settings, language, file := some (f top) } (f top)) :
    fileText graph' settings language (f top) = fileText graph settings language top := by
  have h : Context.CopiedBy { graph, settings, language, file := some top }
      { graph := graph', settings, language, file := some (f top) } part f :=
    ⟨copy, rfl, rfl, rfl, rfl, rfl, fun _ mem => by cases mem⟩
  have named := part.named_of_written part.top_written
  have body :
      Context.fileBody { graph := graph', settings, language, file := some (f top) } (f top) =
        Context.fileBody { graph, settings, language, file := some top } top := by
    unfold Context.fileBody
    cases language with
    | kotlin | java => exact h.treeText_eq part.top_written
    | python =>
      obtain ⟨order, found⟩ := found rfl
      obtain ⟨order', found'⟩ := found' rfl
      simp only [h.moduleBlocks_eq found found']
  unfold fileText Context.writeFile
  simp only [body, fileHead, copy.name named, copy.package named]

end SchemaClasses
