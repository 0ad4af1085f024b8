import SchemaClasses.Proofs.Emit.Comparison
import SchemaClasses.Proofs.Emit.Phrases

/-!
# Methods whose names are told apart

The constructor and the methods of a class are written again with their names told apart. Without
the marks they are those that the class is written with.

## Main definitions

* `MarkedDeclaration`: the declaration of a class with its methods as phrases.
* `Java.markedDeclaration`, `Kotlin.markedDeclaration`: the declaration of a class in which the
  identifiers of properties and the names that a method binds are marked.

## Main statements

* `Java.declaration_eq`, `Kotlin.declaration_eq`: without the marks this is the declaration.
-/

namespace SchemaClasses

/-- The declaration of a class with its methods as phrases. -/
structure MarkedDeclaration where
  /-- The lines before the body. -/
  head : Method
  /-- The sections before the constructor. -/
  before : List Section
  /-- The sections that belong to the constructor. -/
  constructor : List Method
  /-- The other methods. -/
  methods : List Method
  /-- The sections after the methods. -/
  after : List Section

def MarkedDeclaration.written (marked : MarkedDeclaration) : Declaration where
  head := marked.head.lines
  sections := marked.before ++ marked.constructor.map Method.toSection ++
    marked.methods.map Method.toSection ++ marked.after

theorem mapM_eq_map_mapM {m : Type → Type} [Monad m] [LawfulMonad m] {α β γ : Type}
    {f : α → m γ} {g : α → m β} {written : β → γ} (h : ∀ a, f a = written <$> g a)
    (as : List α) : as.mapM f = List.map written <$> as.mapM g := by
  induction as with
  | nil => simp
  | cons a rest ih => simp [h, ih, map_bind, List.mapM_cons]

def markedGuard (language : TargetLanguage) (guard : Guard) (value : Phrase) (itemType : String) :
    Emit Method := do
  for name in ((guardImports language).lookup guard.kind.keyword).getD [] do
    Emit.requireImport name
  return statementWords language guard value itemType

theorem guardLines_eq (language : TargetLanguage) (guard : Guard) (value : Phrase)
    (itemType : String) : guardLines language guard value.written itemType none =
      Method.lines <$> markedGuard language guard value itemType := by
  simp only [guardLines, markedGuard, statementLines_eq_lines, map_bind, map_pure]
  rfl

def markedField (language : TargetLanguage) (property : Property) : Emit Phrase := do
  let name ← Emit.ofExcept (fieldName language property)
  return [.field name]

theorem fieldName_eq (language : TargetLanguage) (property : Property) :
    Emit.ofExcept (fieldName language property) =
      Phrase.written <$> markedField language property := by
  simp [markedField]

/-- The term of the hash code that asks the superclass, if there is one. -/
def superclassTerms (extendsBase : Bool) : List Phrase :=
  if extendsBase then [[.text "super.hashCode()"]] else []

theorem superclassTerms_eq (extendsBase : Bool) :
    (if extendsBase then ["super.hashCode()"] else []) =
      (superclassTerms extendsBase).map Phrase.written := by
  cases extendsBase <;> simp [superclassTerms]

def markedEquality (writes : Bool) (equals hash : Emit Method) : Emit (List Method) := do
  if writes then return [← equals, ← hash]
  return []

/-! ## Java -/

namespace Java

theorem field_eq (property : Property) :
    field property = Phrase.written <$> markedField .java property :=
  fieldName_eq .java property

def markedParameter (context : Context) (property : Property) : Emit Phrase := do
  let type ← parameterType context property
  let name ← field property
  return [.text (type ++ " "), .field name]

theorem parameter_eq (context : Context) (property : Property) :
    parameter context property = Phrase.written <$> markedParameter context property := by
  simp only [parameter, markedParameter, map_bind, map_pure]
  simp

def markedValue (context : Context) (property : Property) (name : String) : Emit Phrase :=
  match property.default? with
  | some value => do
    let default ← context.defaultValue value property.type
    return [.field name, .text " != null ? ", .field name, .text (" : " ++ default)]
  | none => return [.field name]

def markedAssignment (context : Context) (property : Property) : Emit Method := do
  let name ← field property
  let itemType ← loopType context property
  let guards ← context.writtenGuards property
  let checks ← guards.mapM fun guard => markedGuard .java guard [.field name] itemType
  let value ← markedValue context property name
  return checks.flatten ++ [.text ("this." ++ name ++ " = ") :: value ++ [.text ";"]]

theorem assignment_eq (context : Context) (property : Property) :
    assignment context property = Method.lines <$> markedAssignment context property := by
  have guarded (name itemType : String) (guard : Guard) :
      guardLines .java guard name itemType none =
        Method.lines <$> markedGuard .java guard [.field name] itemType := by
    simpa using guardLines_eq .java guard [.field name] itemType
  simp only [assignment, markedAssignment, markedValue, mapM_eq_map_mapM (guarded _ _), map_bind,
    bind_map_left]
  cases property.default? with
  | none => simp [String.append_assoc]
  | some value => simp [String.append_assoc]

def markedSuperCall (extendsBase : Bool) (inherited : List Property) : Emit Method := do
  if extendsBase && !inherited.isEmpty then
    let arguments ← inherited.mapM (markedField .java)
    return [[.text "super("] ++ List.intercalate [.text ", "] arguments ++ [.text ");"]]
  return []

def markedConstructor (context : Context) (name : String) (extendsBase : Bool)
    (inherited own : List Property) : Emit Method := do
  let parameters ← (inherited ++ own).mapM (markedParameter context)
  let superCall ← markedSuperCall extendsBase inherited
  let assignments ← own.mapM (markedAssignment context)
  return [[.text ("public " ++ name ++ "(")]] ++
    (Method.marked "," parameters).map (Phrase.indented 2) ++ [[.text ") \x7b"]] ++
    Method.indent (superCall ++ assignments.flatten) ++ [[.text "\x7d"]]

theorem constructorSection_eq (context : Context) (name : String) (extendsBase : Bool)
    (inherited own : List Property) : constructorSection context name extendsBase inherited own =
      Method.toSection <$> markedConstructor context name extendsBase inherited own := by
  simp only [constructorSection, markedConstructor, markedSuperCall,
    mapM_eq_map_mapM (parameter_eq context), mapM_eq_map_mapM (assignment_eq context),
    mapM_eq_map_mapM field_eq, map_bind, bind_map_left]
  split <;> simp [Method.toSection, Method.map_written, withCommas, Phrase.written_intercalate,
    String.append_assoc, -List.mapM_append]

def markedConstructors (context : Context) (name : String) (extendsBase : Bool)
    (inherited own : List Property) : Emit (List Method) := do
  if inherited.isEmpty && own.isEmpty then return []
  return [← markedConstructor context name extendsBase inherited own]

theorem constructorSections_eq (context : Context) (name : String) (extendsBase : Bool)
    (inherited own : List Property) : constructorSections context name extendsBase inherited own =
      List.map Method.toSection <$> markedConstructors context name extendsBase inherited own := by
  simp only [constructorSections, markedConstructors, constructorSection_eq]
  split <;> simp

def markedGetter (context : Context) (property : Property) : Emit Method := do
  let name ← field property
  let type ← context.fieldType property
  return [[.text ("public " ++ type ++ " " ++ getterName name ++ "() \x7b")],
    Phrase.indented 1 [.text "return ", .field name, .text ";"], [.text "\x7d"]]

theorem getterSection_eq (context : Context) (property : Property) :
    getterSection context property = Method.toSection <$> markedGetter context property := by
  simp [getterSection, markedGetter, Method.toSection, String.append_assoc]

def otherField (name : String) : Phrase := [.bound "typedOther", .text ("." ++ name)]

def markedEqualTest (context : Context) (property : Property) : Emit Phrase := do
  let name ← field property
  let type ← context.fieldType property
  if (boxed? type).isSome then return [.field name, .text " == "] ++ otherField name
  if property.nullable then
    return [.field name, .text " == null ? "] ++ otherField name ++
      [.text " == null : ", .field name, .text ".equals("] ++ otherField name ++ [.text ")"]
  return [.field name, .text ".equals("] ++ otherField name ++ [.text ")"]

theorem equalTest_eq (context : Context) (property : Property) :
    equalTest context property = Phrase.written <$> markedEqualTest context property := by
  simp only [equalTest, markedEqualTest, map_bind]
  refine bind_congr fun name => bind_congr fun type => ?_
  split
  · exact congrArg pure (String.toList_inj.1 (by simp [otherField]))
  · split <;> exact congrArg pure (String.toList_inj.1 (by simp [otherField]))

def markedUnequalTest (context : Context) (property : Property) : Emit Phrase := do
  let name ← field property
  let type ← context.fieldType property
  if (boxed? type).isSome then return [.field name, .text " != "] ++ otherField name
  if property.nullable then
    return [.text "!("] ++ (← markedEqualTest context property) ++ [.text ")"]
  return [.text "!", .field name, .text ".equals("] ++ otherField name ++ [.text ")"]

theorem unequalTest_eq (context : Context) (property : Property) :
    unequalTest context property = Phrase.written <$> markedUnequalTest context property := by
  simp only [unequalTest, markedUnequalTest, equalTest_eq, map_bind]
  refine bind_congr fun name => bind_congr fun type => ?_
  split
  · exact congrArg pure (String.toList_inj.1 (by simp [otherField]))
  · split
    · simp [String.append_assoc]
    · exact congrArg pure (String.toList_inj.1 (by simp [otherField]))

def markedComparison (context : Context) : List Property → Emit Method
  | [] => return []
  | [property] => do
    let test ← markedEqualTest context property
    return [Phrase.indented 1 ([.text "return "] ++ test ++ [.text ";"])]
  | property :: rest => do
    let test ← markedUnequalTest context property
    let others ← markedComparison context rest
    return [Phrase.indented 1 ([.text "if ("] ++ test ++ [.text ")"]),
      Phrase.indented 2 [.text "return false;"]] ++ others

theorem comparisonLines_eq (context : Context) (own : List Property) :
    comparisonLines context own = Method.lines <$> markedComparison context own := by
  fun_induction comparisonLines context own with
  | case1 => simp [markedComparison]
  | case2 property => simp [markedComparison, equalTest_eq, String.append_assoc]
  | case3 property rest nonempty ih =>
    cases rest with
    | nil => exact (nonempty rfl).elim
    | cons next rest =>
      rw [ih]
      simp [markedComparison, unequalTest_eq, String.append_assoc]

/-- The lines that ask the superclass, before those that compare the class's own fields. -/
def markedSuperclass (extendsBase hasFields : Bool) : Method :=
  match extendsBase, hasFields with
  | true, true => [Phrase.indented 1 [.text "if (!super.equals(", .bound "other", .text "))"],
      Phrase.indented 2 [.text "return false;"]]
  | true, false => [Phrase.indented 1 [.text "return super.equals(", .bound "other", .text ");"]]
  | false, true => []
  | false, false => [Phrase.indented 1 [.text "return true;"]]

theorem superclassLines_eq (extendsBase hasFields : Bool) :
    superclassLines extendsBase hasFields = (markedSuperclass extendsBase hasFields).lines := by
  cases extendsBase <;> cases hasFields <;> rfl

def markedEquals (context : Context) (name : String) (extendsBase : Bool) (own : List Property) :
    Emit Method := do
  let start : Method := [[.text "@Override"],
    [.text "public boolean equals(Object ", .bound "other", .text ") \x7b"],
    Phrase.indented 1 [.text "if (this == ", .bound "other", .text ")"],
    Phrase.indented 2 [.text "return true;"],
    Phrase.indented 1 [.text "if (!(", .bound "other", .text (" instanceof " ++ name ++ "))")],
    Phrase.indented 2 [.text "return false;"]]
  let cast : Method := if own.isEmpty then [] else [Phrase.indented 1
    [.text (name ++ " "), .bound "typedOther", .text (" = (" ++ name ++ ")"), .bound "other",
      .text ";"]]
  let comparisons ← markedComparison context own
  return start ++ markedSuperclass extendsBase (!own.isEmpty) ++ cast ++ comparisons ++
    [[.text "\x7d"]]

theorem equalsSection_eq (context : Context) (name : String) (extendsBase : Bool)
    (own : List Property) : equalsSection context name extendsBase own =
      Method.toSection <$> markedEquals context name extendsBase own := by
  simp only [equalsSection, markedEquals, comparisonLines_eq, superclassLines_eq, map_bind,
    bind_map_left]
  refine bind_congr fun comparisons => ?_
  refine congrArg pure (congrArg Text.indent ?_)
  cases own <;> simp [indented, ← String.toList_inj]

def markedPrimitiveHash? (type name : String) : Option Phrase :=
  match type with
  | "int" => some [.field name]
  | "long" => some [.text "Long.hashCode(", .field name, .text ")"]
  | "double" => some [.text "Double.hashCode(", .field name, .text ")"]
  | "boolean" => some [.text "Boolean.hashCode(", .field name, .text ")"]
  | _ => none

theorem primitiveHash?_eq (type name : String) :
    primitiveHash? type name = (markedPrimitiveHash? type name).map Phrase.written := by
  unfold primitiveHash? markedPrimitiveHash?
  split <;> simp [String.append_assoc]

def markedHashTerm (context : Context) (property : Property) : Emit Phrase := do
  let name ← field property
  let type ← context.fieldType property
  match markedPrimitiveHash? type name with
  | some term => return term
  | none =>
    return if property.nullable then
      [.text "(", .field name, .text " != null ? ", .field name, .text ".hashCode() : 0)"]
    else [.field name, .text ".hashCode()"]

theorem hashTerm_eq (context : Context) (property : Property) :
    hashTerm context property = Phrase.written <$> markedHashTerm context property := by
  simp only [hashTerm, markedHashTerm, primitiveHash?_eq, map_bind]
  refine bind_congr fun name => bind_congr fun type => ?_
  cases markedPrimitiveHash? type name with
  | some term => simp
  | none => cases property.nullable <;> simp [String.append_assoc]

/-- The lines of the hash code, from the terms of the base and of the class's own fields. -/
def markedHashLines (terms : List Phrase) : Method :=
  match terms with
  | [] => [Phrase.indented 1 [.text "return 0;"]]
  | [term] => [Phrase.indented 1 ([.text "return "] ++ term ++ [.text ";"])]
  | first :: rest =>
    [Phrase.indented 1 ([.text "int ", .bound "hash", .text " = "] ++ first ++ [.text ";"])] ++
      rest.map (fun term => Phrase.indented 1
        ([.bound "hash", .text " = 31 * ", .bound "hash", .text " + "] ++ term ++ [.text ";"])) ++
      [Phrase.indented 1 [.text "return ", .bound "hash", .text ";"]]

theorem hashLines_eq (terms : List Phrase) :
    hashLines (terms.map Phrase.written) = (markedHashLines terms).lines := by
  rcases terms with _ | ⟨first, _ | ⟨second, rest⟩⟩
  · rfl
  · simp [hashLines, markedHashLines, String.append_assoc]
  · simp [hashLines, markedHashLines, Method.lines, indented, ← String.toList_inj]

def markedHash (context : Context) (extendsBase : Bool) (own : List Property) : Emit Method := do
  let terms ← own.mapM (markedHashTerm context)
  return [[.text "@Override"], [.text "public int hashCode() \x7b"]] ++
    markedHashLines (superclassTerms extendsBase ++ terms) ++ [[.text "\x7d"]]

theorem hashSection_eq (context : Context) (extendsBase : Bool) (own : List Property) :
    hashSection context extendsBase own =
      Method.toSection <$> markedHash context extendsBase own := by
  simp only [hashSection, markedHash, mapM_eq_map_mapM (hashTerm_eq context), map_bind,
    bind_map_left]
  refine bind_congr fun terms => ?_
  rw [superclassTerms_eq, ← List.map_append, hashLines_eq]
  simp [Method.toSection]

def extensionText (context : Context) (id : ClassId) : Option ClassId → Emit String
  | some base => do
    let name ← context.superclassName id base
    return " extends " ++ name
  | none => return ""

/-- The declaration of a class. `nested` writes the classes declared in it. -/
def markedDeclaration (context : Context) (id : ClassId) (nested : Emit (List Section)) :
    Emit MarkedDeclaration := do
  let model := context.graph.get id
  let base? := context.superclass? id
  let inherited := (context.splitFields id).1
  let own := (context.splitFields id).2
  let words := if model.enclosing.isSome then "public static class " else "public class "
  let extension ← extensionText context id base?
  let fields ← own.mapM (fieldLine context)
  let constructor ← markedConstructors context model.name base?.isSome inherited own
  let getters ← own.mapM (markedGetter context)
  let equality ← markedEquality (writesEquality model.kind)
    (markedEquals context model.name base?.isSome own) (markedHash context base?.isSome own)
  let enums ← model.enums.mapM enumSection
  let inner ← nested
  return {
    head := [[.text (words ++ model.name ++ extension ++ " \x7b")]]
    before := if own.isEmpty then [] else [Text.indent fields]
    constructor
    methods := getters ++ equality
    after := enums ++ inner }

/-- A Java declaration is the marked one without its marks. -/
theorem declaration_eq (context : Context) (id : ClassId) (nested : Emit (List Section)) :
    declaration context id nested =
      MarkedDeclaration.written <$> markedDeclaration context id nested := by
  unfold declaration markedDeclaration markedEquality extensionText
  cases context.splitFields id with
  | mk inherited own =>
    simp only [constructorSections_eq, mapM_eq_map_mapM (getterSection_eq context),
      equalsSection_eq, hashSection_eq, bind_map_left]
    cases context.superclass? id <;> cases writesEquality (context.graph.get id).kind <;>
      simp [MarkedDeclaration.written]

end Java

/-! ## Kotlin -/

namespace Kotlin

theorem field_eq (property : Property) :
    field property = Phrase.written <$> markedField .kotlin property :=
  fieldName_eq .kotlin property

def markedParameter (context : Context) (declares : Bool) (property : Property) : Emit Phrase := do
  let name ← field property
  let type ← context.fieldType property
  let phrase : Phrase :=
    [.text (if declares then "val " else ""), .field name, .text (": " ++ type)]
  match property.default? with
  | some value => return phrase ++ [.text (" = " ++ (← context.defaultValue value property.type))]
  | none =>
    return if property.nullable && !property.required then phrase ++ [.text " = null"] else phrase

theorem parameter_eq (context : Context) (declares : Bool) (property : Property) :
    parameter context declares property =
      Phrase.written <$> markedParameter context declares property := by
  simp only [parameter, markedParameter, map_bind]
  refine bind_congr fun name => bind_congr fun type => ?_
  cases property.default? with
  | some value => simp [String.append_assoc]
  | none => cases property.nullable && !property.required <;> simp [String.append_assoc]

def markedSuperclassCall (context : Context) (id : ClassId) (inherited : List Property) :
    Option ClassId → Emit Phrase
  | none => return []
  | some base => do
    let arguments ← inherited.mapM (markedField .kotlin)
    let name ← context.superclassName id base
    return [.text (" : " ++ name ++ "(")] ++ List.intercalate [.text ", "] arguments ++ [.text ")"]

theorem superclassCall_eq (context : Context) (id : ClassId) (inherited : List Property)
    (base? : Option ClassId) : superclassCall context id inherited base? =
      Phrase.written <$> markedSuperclassCall context id inherited base? := by
  cases base? with
  | none => simp [superclassCall, markedSuperclassCall]
  | some base =>
    simp only [superclassCall, markedSuperclassCall, map_bind, bind_map_left,
      mapM_eq_map_mapM field_eq]
    simp [Phrase.written_intercalate, String.append_assoc]

def markedHead (start : String) (supertype : Phrase) (parameters : List Phrase) : Method :=
  if parameters.isEmpty then [.text start :: supertype]
  else [[.text (start ++ "(")]] ++ (Method.marked "," parameters).map (Phrase.indented 1) ++
    [.text ")" :: supertype]

theorem head_eq (start : String) (supertype : Phrase) (parameters : Method) :
    head start supertype.written parameters.lines =
      (markedHead start supertype parameters).lines := by
  unfold head markedHead
  rw [Method.isEmpty_lines]
  split <;> simp [withCommas]

def markedGuards (context : Context) (property : Property) : Emit Method := do
  let guards ← context.writtenGuards property
  let lines ← guards.mapM fun guard => do
    let name ← field property
    markedGuard .kotlin guard [.field name] ""
  return lines.flatten

theorem guardsOfProperty_eq (context : Context) (property : Property) :
    guardsOfProperty context property = Method.lines <$> markedGuards context property := by
  have guarded (guard : Guard) : (do
      let name ← field property
      guardLines .kotlin guard name "" none) = Method.lines <$> (do
      let name ← field property
      markedGuard .kotlin guard [.field name] "") := by
    rw [map_bind]
    refine bind_congr fun name => ?_
    simpa using guardLines_eq .kotlin guard [.field name] ""
  simp [guardsOfProperty, markedGuards, mapM_eq_map_mapM guarded]

def markedInit (context : Context) (own : List Property) : Emit (List Method) := do
  let lines := (← own.mapM (markedGuards context)).flatten
  if lines.isEmpty then return []
  return [[[.text "init \x7b"]] ++ Method.indent lines ++ [[.text "\x7d"]]]

theorem initSections_eq (context : Context) (own : List Property) :
    initSections context own = List.map Method.toSection <$> markedInit context own := by
  simp only [initSections, markedInit, mapM_eq_map_mapM (guardsOfProperty_eq context),
    bind_map_left, map_bind, ← Method.lines_flatten]
  refine bind_congr fun lines => ?_
  rw [Method.isEmpty_lines]
  split <;> simp [Method.toSection]

def markedComparison (property : Property) : Emit Phrase := do
  let name ← field property
  return Phrase.indented 2 [.field name, .text " == ", .bound "other", .text ("." ++ name)]

theorem comparison_eq (property : Property) : (do
      let name ← field property
      return indented 2 (name ++ " == other." ++ name)) =
    Phrase.written <$> markedComparison property := by
  rw [markedComparison, map_bind]
  refine bind_congr fun name => ?_
  exact congrArg pure (String.toList_inj.1 (by simp [indented]))

def markedEquals (name : String) (extendsBase : Bool) (own : List Property) : Emit Method := do
  let start : Phrase := [.text "override fun equals(", .bound "other",
    .text ": Any?): Boolean = this === ", .bound "other", .text " || ", .bound "other",
    .text (" is " ++ name)] ++
    if extendsBase then [.text " && super.equals(", .bound "other", .text ")"] else []
  let comparisons ← own.mapM markedComparison
  return Method.marked " &&" (start :: comparisons)

theorem equalsSection_eq (name : String) (extendsBase : Bool) (own : List Property) :
    equalsSection name extendsBase own =
      Method.toSection <$> markedEquals name extendsBase own := by
  simp only [equalsSection, markedEquals, mapM_eq_map_mapM comparison_eq, map_bind, bind_map_left]
  refine bind_congr fun comparisons => ?_
  refine congrArg pure (congrArg Text.indent ?_)
  rw [Method.lines_marked, Method.lines_cons, Method.map_written]
  congr 2
  cases extendsBase <;> simp [← String.toList_inj]

def markedHashLines (terms : List Phrase) : Method :=
  let start : Word := .text "override fun hashCode(): Int"
  match terms with
  | [] => [[start, .text " = 0"]]
  | [term] => [[start, .text " = "] ++ term]
  | [first, second] => [[start, .text " = 31 * "] ++ first ++ [.text " + "] ++ second]
  | first :: rest =>
    [[start, .text " \x7b"],
      Phrase.indented 1 ([.text "var ", .bound "hash", .text " = "] ++ first)] ++
      rest.map (fun term => Phrase.indented 1
        ([.bound "hash", .text " = 31 * ", .bound "hash", .text " + "] ++ term)) ++
      [Phrase.indented 1 [.text "return ", .bound "hash"], [.text "\x7d"]]

theorem hashLines_eq (terms : List Phrase) :
    hashLines (terms.map Phrase.written) = (markedHashLines terms).lines := by
  rcases terms with _ | ⟨first, _ | ⟨second, _ | ⟨third, rest⟩⟩⟩
  · rfl
  · simp [hashLines, markedHashLines, ← String.toList_inj]
  · simp [hashLines, markedHashLines, ← String.toList_inj]
  · simp [hashLines, markedHashLines, Method.lines, indented, ← String.toList_inj]

def markedHashTerm (property : Property) : Emit Phrase := do
  let name ← field property
  return [.field name, .text ".hashCode()"]

theorem hashTerm_eq (property : Property) : (do return (← field property) ++ ".hashCode()") =
    Phrase.written <$> markedHashTerm property := by
  simp [markedHashTerm]

def markedHash (extendsBase : Bool) (own : List Property) : Emit Method := do
  let terms ← own.mapM markedHashTerm
  return markedHashLines (superclassTerms extendsBase ++ terms)

theorem hashSection_eq (extendsBase : Bool) (own : List Property) :
    hashSection extendsBase own = Method.toSection <$> markedHash extendsBase own := by
  simp only [hashSection, markedHash, mapM_eq_map_mapM hashTerm_eq, map_bind, bind_map_left]
  refine bind_congr fun terms => ?_
  rw [superclassTerms_eq, ← List.map_append, hashLines_eq]
  simp [Method.toSection]

def markedDeclaration (context : Context) (id : ClassId) (nested : Emit (List Section)) :
    Emit MarkedDeclaration := do
  let model := context.graph.get id
  let base? := context.superclass? id
  let inherited := (context.splitFields id).1
  let own := (context.splitFields id).2
  let passed ← inherited.mapM (markedParameter context false)
  let declared ← own.mapM (markedParameter context true)
  let supertype ← markedSuperclassCall context id inherited base?
  let enums ← model.enums.mapM enumSection
  let init ← markedInit context own
  let equality ← markedEquality (writesEquality model.kind)
    (markedEquals model.name base?.isSome own) (markedHash base?.isSome own)
  let inner ← nested
  return {
    head := markedHead (classWords model.kind ++ " " ++ model.name) supertype (passed ++ declared)
    before := enums
    constructor := init
    methods := equality
    after := inner }

/-- A Kotlin declaration is the marked one without its marks. -/
theorem declaration_eq (context : Context) (id : ClassId) (nested : Emit (List Section)) :
    declaration context id nested =
      MarkedDeclaration.written <$> markedDeclaration context id nested := by
  unfold declaration markedDeclaration markedEquality
  cases context.splitFields id with
  | mk inherited own =>
    simp only [mapM_eq_map_mapM (parameter_eq context false),
      mapM_eq_map_mapM (parameter_eq context true), superclassCall_eq, initSections_eq,
      equalsSection_eq, hashSection_eq, bind_map_left, Method.map_written, ← Method.lines_append,
      head_eq]
    cases writesEquality (context.graph.get id).kind <;> simp [MarkedDeclaration.written]

end Kotlin

end SchemaClasses
