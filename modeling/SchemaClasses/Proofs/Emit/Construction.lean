import SchemaClasses.Proofs.Emit.Guards
import SchemaClasses.Proofs.Emit.Parts

/-!
# How declarations make objects

An object is made by the constructor of its class, or in Python by a constructor that the language
adds and the method that is run after it. What the declaration of a class says about that is read
off its text: the parameters, the call of what the superclass has, and the guards with their lines.

## Main definitions

* `Construction`: what a declaration says about making an object.
* `Construction.Spells`: how the text of a declaration says it.
* `Context.Constructs`: a declaration says it, and checks the properties that the class declares.

## Main statements

* `Context.exists_constructs`: every declaration says how an object is made.
-/

namespace SchemaClasses

/-- A property that a class declares, with the guards on it and the lines of each. -/
structure GuardedField where
  property : Property
  guards : List (Guard × List String)

namespace GuardedField

def lines (field : GuardedField) : List String := field.guards.flatMap (·.2)

def checks (field : GuardedField) : List (Property × Guard) :=
  field.guards.map fun written => (field.property, written.1)

end GuardedField

/-- What the declaration of a class says about making an object: its constructor, or in Python the
method that is run after the fields are set. -/
structure Construction where
  /-- The names of the parameters. -/
  parameters : List String
  /-- The arguments of the call of what the superclass has, if that is called. -/
  superCall? : Option (List String)
  /-- The properties that the class declares, with their guards. -/
  fields : List GuardedField

namespace Construction

def lines (construction : Construction) : List String := construction.fields.flatMap (·.lines)

def checks (construction : Construction) : List (Property × Guard) :=
  construction.fields.flatMap (·.checks)

end Construction

/-! ## Texts -/

def Kotlin.supertype (arguments : List String) : Option String → String
  | none => ""
  | some superclass => " : " ++ superclass ++ "(" ++ ", ".intercalate arguments ++ ")"

def Kotlin.IsParameter (text name : String) : Prop :=
  ∃ start ∈ ["", "val "], ∃ rest, text = start ++ name ++ ": " ++ rest

/-- The initializer of a Kotlin class, if it makes any checks. -/
def Kotlin.initializer (lines : List String) : List Section :=
  if lines.isEmpty then [] else [Text.indent (["init \x7b"] ++ Text.indent lines ++ ["\x7d"])]

def Java.extension : Option String → String
  | none => ""
  | some superclass => " extends " ++ superclass

def Java.IsParameter (text name : String) : Prop := ∃ type, text = type ++ " " ++ name

def Java.superLines : Option (List String) → List String
  | none => []
  | some arguments => ["super(" ++ ", ".intercalate arguments ++ ");"]

def Java.IsAssignment (field : GuardedField) (lines : List String) : Prop :=
  ∃ name value, lines = field.lines ++ ["this." ++ name ++ " = " ++ value ++ ";"]

def Java.constructor (name : String) (parameters body : List String) : Section :=
  Text.indent (["public " ++ name ++ "("] ++ (withCommas parameters).map (indented 2) ++
    [") \x7b"] ++ Text.indent body ++ ["\x7d"])

def Python.bases : Option String → String
  | none => ""
  | some superclass => "(" ++ superclass ++ ")"

def Python.superLines : Option (List String) → List String
  | none => []
  | some _ => ["super().__post_init__()"]

/-- The method of a Python class that makes its checks, if there are any. -/
def Python.method (superCall? : Option (List String)) (lines : List String) : List Section :=
  if lines.isEmpty then []
  else [Text.indent (["def __post_init__(self):"] ++
    Text.indent (Python.superLines superCall? ++ lines))]

/-- The line that begins the section of a class that is run when an object is made. -/
def openingLine (name : String) : TargetLanguage → String
  | .kotlin => "init \x7b"
  | .java => "public " ++ name ++ "("
  | .python => "def __post_init__(self):"

/-- How the lines that declare a class with a superclass and the sections `parts` of its body say
what is done to make an object. -/
inductive Construction.Spells (name : String) (superclass? : Option String) :
    TargetLanguage → List String → List Section → Construction → Prop
  | kotlin {words : String} {texts : List String} {construction : Construction}
      (parameters : List.Forall₂ Kotlin.IsParameter texts construction.parameters)
      (calls : construction.superCall?.isSome ↔ superclass?.isSome) :
      Spells name superclass? .kotlin
        (Kotlin.head (words ++ name)
          (Kotlin.supertype (construction.superCall?.getD []) superclass?) texts)
        (Kotlin.initializer construction.lines) construction
  /-- A Java class without a constructor has one without parameters. -/
  | javaDefault {words : String} : Spells name superclass? .java
      [words ++ name ++ Java.extension superclass? ++ " \x7b"] [] ⟨[], none, []⟩
  | java {words : String} {texts : List String} {assignments : List (List String)}
      {construction : Construction}
      (parameters : List.Forall₂ Java.IsParameter texts construction.parameters)
      (fields : List.Forall₂ Java.IsAssignment construction.fields assignments) :
      Spells name superclass? .java [words ++ name ++ Java.extension superclass? ++ " \x7b"]
        [Java.constructor name texts
          (Java.superLines construction.superCall? ++ assignments.flatten)] construction
  /-- The method of a Python class has no parameters besides the object. It is run when an object of
  a dataclass is made. -/
  | python {decorators : List String} {construction : Construction}
      (parameters : construction.parameters = [])
      (arguments : ∀ arguments ∈ construction.superCall?, arguments = [])
      (dataclass : construction.fields ≠ [] →
        decorators = ["@dataclass(frozen=True, kw_only=True)"]) :
      Spells name superclass? .python
        (decorators ++ ["class " ++ name ++ Python.bases superclass? ++ ":"])
        (Python.method construction.superCall? construction.lines) construction

def checkedValue (language : TargetLanguage) (name : String) : String :=
  match language with
  | .python => "self." ++ name
  | _ => name

/-- The guards on a field are those of its property that are written, each with its lines. -/
structure GuardedField.Writes (context : Context) (field : GuardedField) : Prop where
  guards : (context.writtenGuards field.property).Gives (field.guards.map (·.1))
  lines : ∀ written ∈ field.guards, ∃ name itemType key?,
    fieldName context.language field.property = .ok name ∧
      (guardLines context.language written.1 (checkedValue context.language name) itemType
        key?).Gives written.2

def Context.writtenSuperclass (context : Context) (id base : ClassId) : Emit String :=
  match context.language with
  | .python => Python.baseName context base
  | _ => context.superclassName id base

/-- A declaration of a class says how an object is made, and what it checks are the properties that
the class declares. `inner` are the sections of the classes declared in it. -/
structure Context.Constructs (context : Context) (id : ClassId) (inner : List Section)
    (declaration : Declaration) (construction : Construction) : Prop where
  /-- No other section is run to make an object. -/
  spelled : ∃ superclass? before parts after,
    Option.Rel (fun base superclass => (context.writtenSuperclass id base).Gives superclass)
      (context.superclass? id) superclass? ∧
    declaration.sections = before ++ parts ++ after ∧
    Construction.Spells (context.graph.get id).name superclass? context.language
      declaration.head parts construction ∧
    ∀ part ∈ before ++ after, part ∈ inner ∨
      part.head? ≠ some (indented 1 (openingLine (context.graph.get id).name context.language))
  fields : construction.fields.map (·.property) = (context.splitFields id).2
  writes : ∀ field ∈ construction.fields, field.Writes context

/-- What is passed on to make an object, by the properties of a class. -/
structure Context.Passes (context : Context) (id : ClassId) (construction : Construction) :
    Prop where
  parameters : context.language ≠ .python →
    ((context.splitFields id).1 ++ (context.splitFields id).2).mapM
      (fieldName context.language) = .ok construction.parameters
  arguments : context.language ≠ .python →
    (context.splitFields id).1.mapM (fieldName context.language) =
      .ok (construction.superCall?.getD [])
  python : context.language = .python → (construction.superCall?.isSome ↔
    construction.lines ≠ [] ∧ ∃ property ∈ (context.splitFields id).1, ∃ guards,
      context.guardsOf property = .ok guards ∧ guards ≠ [])

def Context.declaration (context : Context) (id : ClassId) (nested : Emit (List Section)) :
    Emit Declaration :=
  match context.language with
  | .kotlin => Kotlin.declaration context id nested
  | .java => Java.declaration context id nested
  | .python => Python.declaration context id nested

def Declaration.text (language : TargetLanguage) (declaration : Declaration) : String :=
  match language with
  | .kotlin => Kotlin.text declaration
  | .java => Java.text declaration
  | .python => Python.text declaration

theorem Context.declarationText_eq (context : Context) (id : ClassId)
    (nested : Emit (List Section)) : context.declarationText id nested =
      Declaration.text context.language <$> context.declaration id nested := by
  unfold Context.declarationText Context.declaration
  cases context.language <;> rfl

/-! ## Lists -/

section

variable {α β γ : Type} {as : List α} {bs : List β} {cs : List γ}

/-- Two lists that are related through elements in between are related through a list in between. -/
theorem exists_comp_of_forall₂ {R : α → γ → Prop} {S : β → γ → Prop}
    (h : List.Forall₂ (fun a b => ∃ c, R a c ∧ S b c) as bs) :
    ∃ cs, List.Forall₂ R as cs ∧ List.Forall₂ S bs cs := by
  induction h with
  | nil => exact ⟨[], .nil, .nil⟩
  | cons first _ ih =>
    obtain ⟨c, left, right⟩ := first
    obtain ⟨cs, lefts, rights⟩ := ih
    exact ⟨c :: cs, .cons left lefts, .cons right rights⟩

theorem map_eq_and_of_forall₂ {f : γ → α} {P : γ → Prop}
    (h : List.Forall₂ (fun a c => f c = a ∧ P c) as cs) : cs.map f = as ∧ ∀ c ∈ cs, P c := by
  induction h with
  | nil => simp
  | cons first _ ih => simp_all

theorem mapM_eq_ok_of_forall₂ {ε : Type} {f : α → Except ε β}
    (h : List.Forall₂ (fun a b => f a = .ok b) as bs) : as.mapM f = .ok bs := by
  induction h with
  | nil => rfl
  | cons first _ ih =>
    rw [List.mapM_cons, first, ih]
    rfl

end

/-! ## Lines and sections -/

/-- Texts with different first characters. -/
theorem ne_of_head?_ne {text other : String} (ne : text.toList.head? ≠ other.toList.head?) :
    text ≠ other := fun eq => ne (eq ▸ rfl)

/-- Texts with different last characters. -/
theorem ne_of_getLast?_ne {text other : String}
    (ne : text.toList.getLast? ≠ other.toList.getLast?) : text ≠ other := fun eq => ne (eq ▸ rfl)

/-- A section that begins with another line is not run to make an object. -/
theorem head?_indent_ne {first opening : String} (ne : first ≠ opening) (rest : List String) :
    (Text.indent (first :: rest)).head? ≠ some (indented 1 opening) := by
  unfold Text.indent indented indented
  rw [List.map_cons, List.head?_cons]
  split
  · rename_i empty
    obtain rfl : first = "" := by simpa using empty
    simp [Text.indentation, ← String.toList_inj]
  · simpa using ne

section

variable {context : Context} {id : ClassId} {property : Property} {own : List Property}
  {nested : Emit (List Section)} {declaration : Declaration}

/-! ## Properties -/

/-- The lines of the guards on a property, as a field. -/
theorem exists_writes {guards : List Guard} {lines : List (List String)}
    (given : (context.writtenGuards property).Gives guards)
    (h : List.Forall₂ (fun guard lines => ∃ name itemType key?,
      fieldName context.language property = .ok name ∧
        (guardLines context.language guard (checkedValue context.language name) itemType
          key?).Gives lines) guards lines) :
    ∃ field : GuardedField, field.property = property ∧ field.Writes context ∧
      field.lines = lines.flatten := by
  let IsWritten (written : Guard × List String) : Prop := ∃ name itemType key?,
    fieldName context.language property = .ok name ∧
      (guardLines context.language written.1 (checkedValue context.language name) itemType
        key?).Gives written.2
  have paired : List.Forall₂ (fun guard lines => ∃ written : Guard × List String,
      (written.1 = guard ∧ IsWritten written) ∧ written.2 = lines ∧ True) guards lines :=
    h.imp fun guard lines isWritten => ⟨(guard, lines), ⟨rfl, isWritten⟩, rfl, trivial⟩
  obtain ⟨pairs, byGuard, byLines⟩ := exists_comp_of_forall₂ paired
  obtain ⟨rfl, written⟩ := map_eq_and_of_forall₂ byGuard
  obtain ⟨rfl, -⟩ := map_eq_and_of_forall₂ byLines
  exact ⟨⟨property, pairs⟩, rfl, ⟨given, written⟩, rfl⟩

/-- The fields of a class from the lines of each property. -/
theorem exists_fields {lines : List (List String)}
    (h : List.Forall₂ (fun property lines => ∃ field : GuardedField, field.property = property ∧
      field.Writes context ∧ field.lines = lines) own lines) :
    ∃ fields : List GuardedField, fields.map (·.property) = own ∧
      (∀ field ∈ fields, field.Writes context) ∧ fields.flatMap (·.lines) = lines.flatten := by
  have paired : List.Forall₂ (fun property lines => ∃ field : GuardedField,
      (field.property = property ∧ field.Writes context) ∧ field.lines = lines ∧ True) own lines :=
    h.imp fun _ _ ⟨field, isField, writes, lines⟩ => ⟨field, ⟨isField, writes⟩, lines, trivial⟩
  obtain ⟨fields, byProperty, byLines⟩ := exists_comp_of_forall₂ paired
  obtain ⟨isOwn, writes⟩ := map_eq_and_of_forall₂ byProperty
  obtain ⟨rfl, -⟩ := map_eq_and_of_forall₂ byLines
  exact ⟨fields, isOwn, writes, rfl⟩

/-- The names of parameters are those of the properties. -/
theorem exists_names {language : TargetLanguage} {IsParameter : String → String → Prop}
    {properties : List Property} {texts : List String}
    (h : List.Forall₂ (fun property text => ∃ name,
      fieldName language property = .ok name ∧ IsParameter text name) properties texts) :
    ∃ names, properties.mapM (fieldName language) = .ok names ∧
      List.Forall₂ IsParameter texts names := by
  obtain ⟨names, named, isParameter⟩ := exists_comp_of_forall₂ h
  exact ⟨names, mapM_eq_ok_of_forall₂ named, isParameter⟩

theorem mapM_eq_ok_of_gives {language : TargetLanguage} {field : Property → Emit String}
    (isField : ∀ property, field property = Emit.ofExcept (fieldName language property))
    {properties : List Property} {names : List String} (h : (properties.mapM field).Gives names) :
    properties.mapM (fieldName language) = .ok names :=
  mapM_eq_ok_of_forall₂ (h.of_mapM.imp fun property name h => by
    rw [isField] at h
    exact h.of_ofExcept)

theorem inherited_eq_nil (h : context.superclass? id = none) :
    (context.splitFields id).1 = [] := by
  simp [Context.splitFields, h]

/-! ## Kotlin -/

theorem Kotlin.exists_writes (kotlin : context.language = .kotlin) {lines : List String}
    (h : (Kotlin.guardsOfProperty context property).Gives lines) :
    ∃ field : GuardedField, field.property = property ∧ field.Writes context ∧
      field.lines = lines := by
  obtain ⟨guards, given, h⟩ := h.of_bind
  obtain ⟨parts, written, h⟩ := h.of_bind
  rw [← h.of_pure]
  refine SchemaClasses.exists_writes given (written.of_mapM.imp fun guard lines h => ?_)
  obtain ⟨name, named, h⟩ := h.of_bind
  rw [kotlin]
  exact ⟨name, "", none, named.of_ofExcept, h⟩

/-- The initializer of a Kotlin class makes the guards on each of its own properties, in their
order. -/
theorem Kotlin.exists_fields (kotlin : context.language = .kotlin) {parts : List Section}
    (h : (Kotlin.initSections context own).Gives parts) :
    ∃ fields : List GuardedField, fields.map (·.property) = own ∧
      (∀ field ∈ fields, field.Writes context) ∧
      parts = Kotlin.initializer (fields.flatMap (·.lines)) := by
  obtain ⟨lines, written, h⟩ := h.of_bind
  obtain ⟨fields, isOwn, writes, linesEq⟩ := SchemaClasses.exists_fields
    (written.of_mapM.imp fun _ _ h => Kotlin.exists_writes kotlin h)
  refine ⟨fields, isOwn, writes, ?_⟩
  rw [linesEq]
  extract_lets all at h
  unfold Kotlin.initializer
  split at h
  · rename_i empty
    rw [if_pos empty, h.of_pure]
  · rename_i nonempty
    rw [if_neg nonempty, ← h.of_pure]

/-- A constructor parameter in Kotlin has the name of the field. -/
theorem Kotlin.exists_isParameter {declares : Bool} {text : String}
    (h : (Kotlin.parameter context declares property).Gives text) :
    ∃ name, fieldName .kotlin property = .ok name ∧ Kotlin.IsParameter text name := by
  obtain ⟨name, named, h⟩ := h.of_bind
  obtain ⟨type, -, h⟩ := h.of_bind
  refine ⟨name, named.of_ofExcept, (if declares then "val " else ""),
    by cases declares <;> simp, ?_⟩
  extract_lets start at h
  split at h
  · obtain ⟨default, -, h⟩ := h.of_bind
    exact ⟨type ++ (" = " ++ default), by simp [← h.of_pure, start, String.append_assoc]⟩
  · rw [← h.of_pure]
    split
    · exact ⟨type ++ " = null", by simp [start, String.append_assoc]⟩
    · exact ⟨type, by simp [start, String.append_assoc]⟩

/-- A Kotlin class passes its inherited properties on to the superclass. -/
theorem Kotlin.exists_supertype (kotlin : context.language = .kotlin) {inherited : List Property}
    {base? : Option ClassId} {text : String}
    (h : (Kotlin.superclassCall context id inherited base?).Gives text)
    (none : base? = none → inherited = []) :
    ∃ (superclass? : Option String) (superCall? : Option (List String)),
      text = Kotlin.supertype (superCall?.getD []) superclass? ∧
      Option.Rel (fun base superclass => (context.writtenSuperclass id base).Gives superclass)
        base? superclass? ∧
      (superCall?.isSome ↔ superclass?.isSome) ∧
      inherited.mapM (fieldName .kotlin) = .ok (superCall?.getD []) := by
  cases base? with
  | none => exact ⟨Option.none, Option.none, h.of_pure.symm, .none, .rfl, by rw [none rfl]; rfl⟩
  | some base =>
    obtain ⟨arguments, named, h⟩ := h.of_bind
    obtain ⟨superclass, isSuperclass, h⟩ := h.of_bind
    refine ⟨some superclass, some arguments, h.of_pure.symm, .some ?_, by simp,
      mapM_eq_ok_of_gives (fun _ => rfl) named⟩
    rw [Context.writtenSuperclass, kotlin]
    exact isSuperclass

theorem Kotlin.begins_of_enumSection {definition : EnumDef} {part : Section}
    (h : (Kotlin.enumSection definition).Gives part) :
    part.head? ≠ some (indented 1 "init \x7b") := by
  obtain ⟨rest, rfl⟩ := Kotlin.exists_enumSection h
  exact head?_indent_ne (ne_of_head?_ne (by simp)) rest

theorem Kotlin.begins_of_equalsSection {name : String} {extendsBase : Bool} {own : List Property}
    {part : Section} (h : (Kotlin.equalsSection name extendsBase own).Gives part) :
    part.head? ≠ some (indented 1 "init \x7b") := by
  unfold Kotlin.equalsSection at h
  extract_lets start at h
  obtain ⟨comparisons, -, h⟩ := h.of_bind
  rw [← h.of_pure]
  cases comparisons with
  | nil => exact head?_indent_ne (ne_of_head?_ne (by simp [start])) _
  | cons first rest => exact head?_indent_ne (ne_of_head?_ne (by simp [start])) _

theorem Kotlin.begins_of_hashSection {extendsBase : Bool} {own : List Property}
    {part : Section} (h : (Kotlin.hashSection extendsBase own).Gives part) :
    part.head? ≠ some (indented 1 "init \x7b") := by
  obtain ⟨terms, -, h⟩ := h.of_bind
  rw [← h.of_pure]
  unfold Kotlin.hashLines
  extract_lets start
  split
  all_goals exact head?_indent_ne (ne_of_head?_ne (by simp [start])) _

/-- What a Kotlin class says about making an object. -/
theorem Kotlin.exists_constructs (kotlin : context.language = .kotlin)
    (h : (Kotlin.declaration context id nested).Gives declaration) :
    ∃ inner construction, nested.Gives inner ∧
      context.Constructs id inner declaration construction ∧ context.Passes id construction := by
  obtain ⟨parts, declares⟩ := Kotlin.exists_parts h
  have areParameters : List.Forall₂ (fun property text => ∃ name,
      fieldName .kotlin property = .ok name ∧ Kotlin.IsParameter text name)
      ((context.splitFields id).1 ++ (context.splitFields id).2)
      (parts.passed ++ parts.declared) :=
    List.rel_append (declares.passed.of_mapM.imp fun _ _ h => Kotlin.exists_isParameter h)
      (declares.declared.of_mapM.imp fun _ _ h => Kotlin.exists_isParameter h)
  obtain ⟨names, named, isParameter⟩ := exists_names areParameters
  obtain ⟨superclass?, superCall?, supertype, extended, calls, arguments⟩ :=
    Kotlin.exists_supertype kotlin declares.supertype inherited_eq_nil
  obtain ⟨fields, isOwn, writes, init⟩ := Kotlin.exists_fields kotlin declares.init
  have enums := declares.enums.forall_of_mapM fun _ _ h => Kotlin.begins_of_enumSection h
  have equality := declares.equality.forall (fun _ h => Kotlin.begins_of_equalsSection h)
    fun _ h => Kotlin.begins_of_hashSection h
  refine ⟨parts.inner, ⟨names, superCall?, fields⟩, declares.inner, ⟨?_, isOwn, writes⟩,
    ⟨?_, ?_, ?_⟩⟩
  · refine ⟨superclass?, parts.enums, parts.init, parts.equality ++ parts.inner, extended, ?_, ?_,
      ?_⟩
    · rw [declares.sections, List.append_assoc]
    · rw [declares.head, supertype, init, kotlin]
      exact @Construction.Spells.kotlin _ _ _ _ ⟨names, superCall?, fields⟩ isParameter calls
    · rw [kotlin]
      grind [openingLine]
  · simpa [kotlin] using named
  · simpa [kotlin] using arguments
  · simp [kotlin]

/-! ## Java -/

/-- The constructor checks a property before it sets the field. -/
theorem Java.exists_assignment (java : context.language = .java) {lines : List String}
    (h : (Java.assignment context property).Gives lines) :
    ∃ field : GuardedField, (field.property = property ∧ field.Writes context) ∧
      ∃ name value, fieldName .java property = .ok name ∧
        lines = field.lines ++ ["this." ++ name ++ " = " ++ value ++ ";"] := by
  obtain ⟨name, named, h⟩ := h.of_bind
  obtain ⟨itemType, -, h⟩ := h.of_bind
  obtain ⟨guards, given, h⟩ := h.of_bind
  obtain ⟨parts, written, h⟩ := h.of_bind
  obtain ⟨field, isField, writes, linesEq⟩ := SchemaClasses.exists_writes given
    (written.of_mapM.imp fun guard lines h =>
      ⟨name, itemType, none, by rw [java]; exact named.of_ofExcept, by rw [java]; exact h⟩)
  refine ⟨field, ⟨isField, writes⟩, name, ?_⟩
  rw [linesEq]
  extract_lets finish at h
  split at h
  · obtain ⟨default, -, h⟩ := h.of_bind
    exact ⟨_, named.of_ofExcept, h.of_pure.symm⟩
  · exact ⟨_, named.of_ofExcept, h.of_pure.symm⟩

theorem Java.exists_isParameter {text : String} (h : (Java.parameter context property).Gives text) :
    ∃ name, fieldName .java property = .ok name ∧ Java.IsParameter text name := by
  obtain ⟨type, -, h⟩ := h.of_bind
  obtain ⟨name, named, h⟩ := h.of_bind
  exact ⟨name, named.of_ofExcept, type, h.of_pure.symm⟩

/-- The constructor in Java calls that of the superclass first, and then checks and sets the fields
of the class. -/
theorem Java.exists_construction (java : context.language = .java) {name : String}
    {extendsBase : Bool} {inherited own : List Property} {parts : List Section}
    (noBase : extendsBase = false → inherited = [])
    (h : (Java.constructorSections context name extendsBase inherited own).Gives parts) :
    ∃ construction : Construction,
      (∀ words superclass?, Construction.Spells name superclass? .java
        [words ++ name ++ Java.extension superclass? ++ " \x7b"] parts construction) ∧
      construction.fields.map (·.property) = own ∧
      (∀ field ∈ construction.fields, field.Writes context) ∧
      (inherited ++ own).mapM (fieldName .java) = .ok construction.parameters ∧
      inherited.mapM (fieldName .java) = .ok (construction.superCall?.getD []) := by
  unfold Java.constructorSections at h
  split at h
  · rename_i empty
    obtain ⟨rfl, rfl⟩ : inherited = [] ∧ own = [] := by simpa using empty
    rw [← h.of_pure]
    exact ⟨⟨[], none, []⟩, fun _ _ => .javaDefault, rfl, by simp, rfl, rfl⟩
  · obtain ⟨part, h, last⟩ := h.of_bind
    rw [← last.of_pure]
    obtain ⟨texts, areParameters, h⟩ := h.of_bind
    obtain ⟨names, named, isParameter⟩ :=
      exists_names (areParameters.of_mapM.imp fun _ _ h => Java.exists_isParameter h)
    extract_lets finish at h
    have finished (superCall? : Option (List String))
        (arguments : inherited.mapM (fieldName .java) = .ok (superCall?.getD []))
        (h : (finish (Java.superLines superCall?)).Gives part) : ∃ construction : Construction,
          (∀ words superclass?, Construction.Spells name superclass? .java
            [words ++ name ++ Java.extension superclass? ++ " \x7b"] [part] construction) ∧
          construction.fields.map (·.property) = own ∧
          (∀ field ∈ construction.fields, field.Writes context) ∧
          (inherited ++ own).mapM (fieldName .java) = .ok construction.parameters ∧
          inherited.mapM (fieldName .java) = .ok (construction.superCall?.getD []) := by
      obtain ⟨assignments, areAssignments, h⟩ := h.of_bind
      obtain ⟨fields, byProperty, byLines⟩ := exists_comp_of_forall₂
        (S := fun lines field => Java.IsAssignment field lines)
        (areAssignments.of_mapM.imp fun _ _ h => by
          obtain ⟨field, isField, name, value, -, lines⟩ := Java.exists_assignment java h
          exact ⟨field, isField, name, value, lines⟩)
      obtain ⟨isOwn, writes⟩ := map_eq_and_of_forall₂ byProperty
      refine ⟨⟨names, superCall?, fields⟩, fun _ _ => ?_, isOwn, writes, named, arguments⟩
      rw [← h.of_pure]
      exact @Construction.Spells.java _ _ _ _ _ ⟨names, superCall?, fields⟩ isParameter byLines.flip
    split at h
    · obtain ⟨arguments, areArguments, h⟩ := h.of_bind
      exact finished (some arguments) (mapM_eq_ok_of_gives (fun _ => rfl) areArguments) h
    · rename_i empty
      have none : inherited = [] := by
        cases extendsBase
        · exact noBase rfl
        · simpa using empty
      exact finished Option.none (by rw [none]; rfl) h

theorem Java.begins_of_fieldLines {own : List Property} {lines : List String}
    (h : (own.mapM (Java.fieldLine context)).Gives lines) (nonempty : own ≠ []) (name : String) :
    (Text.indent lines).head? ≠ some (indented 1 ("public " ++ name ++ "(")) := by
  obtain ⟨type, field, rest, rfl⟩ := Java.exists_fieldLines h nonempty
  exact head?_indent_ne (ne_of_getLast?_ne (by simp [List.getLast?_cons])) rest

theorem Java.begins_of_getterSection {property : Property} {part : Section}
    (h : (Java.getterSection context property).Gives part) (name : String) :
    part.head? ≠ some (indented 1 ("public " ++ name ++ "(")) := by
  obtain ⟨type, field, rest, rfl⟩ := Java.exists_getterSection h
  exact head?_indent_ne (ne_of_getLast?_ne (by simp [List.getLast?_cons])) rest

theorem Java.begins_of_enumSection {definition : EnumDef} {part : Section}
    (h : (Java.enumSection definition).Gives part) (name : String) :
    part.head? ≠ some (indented 1 ("public " ++ name ++ "(")) := by
  obtain ⟨rest, rfl⟩ := Java.exists_enumSection h
  exact head?_indent_ne (ne_of_getLast?_ne (by simp [List.getLast?_cons])) rest

theorem Java.begins_of_equalsSection {extendsBase : Bool} {own : List Property} {part : Section}
    {className : String} (h : (Java.equalsSection context className extendsBase own).Gives part)
    (name : String) : part.head? ≠ some (indented 1 ("public " ++ name ++ "(")) := by
  obtain ⟨comparisons, -, h⟩ := h.of_bind
  rw [← h.of_pure, List.append_assoc, List.append_assoc, List.append_assoc]
  exact head?_indent_ne (ne_of_head?_ne (by simp)) _

theorem Java.begins_of_hashSection {extendsBase : Bool} {own : List Property} {part : Section}
    (h : (Java.hashSection context extendsBase own).Gives part) (name : String) :
    part.head? ≠ some (indented 1 ("public " ++ name ++ "(")) := by
  obtain ⟨terms, -, h⟩ := h.of_bind
  rw [← h.of_pure, List.append_assoc]
  exact head?_indent_ne (ne_of_head?_ne (by simp)) _

/-- What a Java class says about making an object. -/
theorem Java.exists_constructs (java : context.language = .java)
    (h : (Java.declaration context id nested).Gives declaration) :
    ∃ inner construction, nested.Gives inner ∧
      context.Constructs id inner declaration construction ∧ context.Passes id construction := by
  obtain ⟨parts, declares⟩ := Java.exists_parts h
  obtain ⟨superclass?, isSuperclass, extension⟩ := declares.extension.exists_rel
  have noBase (none : (context.superclass? id).isSome = false) : (context.splitFields id).1 = [] :=
    inherited_eq_nil (by simpa using none)
  obtain ⟨construction, spelled, isOwn, writes, named, arguments⟩ :=
    Java.exists_construction java noBase declares.constructor
  have fields (nonempty : (context.splitFields id).2 ≠ []) :=
    Java.begins_of_fieldLines declares.fields nonempty (context.graph.get id).name
  have getters := declares.getters.forall_of_mapM fun _ _ h =>
    Java.begins_of_getterSection h (context.graph.get id).name
  have equality := declares.equality.forall
    (fun _ h => Java.begins_of_equalsSection h (context.graph.get id).name)
    fun _ h => Java.begins_of_hashSection h (context.graph.get id).name
  have enums := declares.enums.forall_of_mapM fun _ _ h =>
    Java.begins_of_enumSection h (context.graph.get id).name
  refine ⟨parts.inner, construction, declares.inner, ⟨?_, isOwn, writes⟩, ⟨?_, ?_, ?_⟩⟩
  · refine ⟨superclass?,
      if (context.splitFields id).2.isEmpty then [] else [Text.indent parts.fields],
      parts.constructor, parts.getters ++ parts.equality ++ parts.enums ++ parts.inner, ?_, ?_, ?_,
      ?_⟩
    · unfold Context.writtenSuperclass
      rw [java]
      exact isSuperclass
    · rw [declares.sections]
      simp only [List.append_assoc]
    · rw [declares.head, extension, java]
      cases superclass? with
      | none => exact spelled _ none
      | some superclass => exact spelled _ (some superclass)
    · rw [java]
      grind [openingLine]
  · simpa [java] using named
  · simpa [java] using arguments
  · simp [java]

/-! ## Python -/

/-- The lines of a property in Python are those of its written guards. -/
theorem Python.exists_writes (python : context.language = .python) {lines : List String}
    (h : (Python.guardsOfProperty context property).Gives lines) :
    ∃ field : GuardedField, field.property = property ∧ field.Writes context ∧
      field.lines = lines := by
  obtain ⟨guards, given, h⟩ := h.of_bind
  obtain ⟨parts, written, h⟩ := h.of_bind
  rw [← h.of_pure]
  refine SchemaClasses.exists_writes given (written.of_mapM.imp fun guard lines h => ?_)
  obtain ⟨name, named, h⟩ := h.of_bind
  obtain ⟨key?, -, h⟩ := h.of_bind
  rw [python]
  exact ⟨name, "", key?, named.of_ofExcept, h⟩

/-- A Python class has a method for its checks if some guard of its properties is written. -/
theorem Python.anyGuarded_iff (named : ∀ id, (boxed? (context.graph.get id).name).isSome = false)
    {properties : List Property} {guarded : Bool}
    (h : (Python.anyGuarded context properties).Gives guarded) :
    guarded ↔ ∃ property ∈ properties, ∃ guards,
      context.guardsOf property = .ok guards ∧ guards ≠ [] := by
  induction properties with
  | nil => simp [← h.of_pure]
  | cons first rest ih =>
    obtain ⟨guards, given, h⟩ := h.of_bind
    have given := guardsOf_of_gives named given
    rw [List.exists_mem_cons_iff]
    split at h
    · rename_i empty
      obtain rfl : guards = [] := by simpa using empty
      simp [ih h, given]
    · rename_i nonempty
      rw [← h.of_pure]
      exact iff_of_true rfl (.inl ⟨guards, given, by simpa using nonempty⟩)

/-- The method of a Python class calls that of the superclass first, and then makes the guards on
its own fields. -/
theorem Python.exists_fields (python : context.language = .python)
    (named : ∀ id, (boxed? (context.graph.get id).name).isSome = false)
    {inherited : List Property} {parts : List Section}
    (h : (Python.checkSections context inherited own).Gives parts) :
    ∃ (superCall? : Option (List String)) (fields : List GuardedField),
      fields.map (·.property) = own ∧ (∀ field ∈ fields, field.Writes context) ∧
      parts = Python.method superCall? (fields.flatMap (·.lines)) ∧
      (∀ arguments ∈ superCall?, arguments = []) ∧
      (superCall?.isSome ↔ fields.flatMap (·.lines) ≠ [] ∧ ∃ property ∈ inherited, ∃ guards,
        context.guardsOf property = .ok guards ∧ guards ≠ []) := by
  obtain ⟨lines, written, h⟩ := h.of_bind
  obtain ⟨fields, isOwn, writes, linesEq⟩ := SchemaClasses.exists_fields
    (written.of_mapM.imp fun _ _ h => Python.exists_writes python h)
  rw [← linesEq] at h
  extract_lets all at h
  split at h
  · rename_i empty
    refine ⟨none, fields, isOwn, writes, ?_, by simp, ?_⟩
    · rw [Python.method, if_pos empty, h.of_pure]
    · have empty : all = [] := by simpa using empty
      simp [all, empty]
  · rename_i nonempty
    obtain ⟨guarded, given, h⟩ := h.of_bind
    refine ⟨if guarded then some [] else none, fields, isOwn, writes, ?_, ?_, ?_⟩
    · rw [Python.method, if_neg nonempty, ← h.of_pure]
      cases guarded <;> rfl
    · cases guarded <;> simp
    · rw [← Python.anyGuarded_iff named given]
      have nonempty : all ≠ [] := by simpa using nonempty
      cases guarded <;> simp [all, nonempty]

/-- An enum does not begin like the method that makes the checks. -/
theorem Python.begins_of_enumSection {definition : EnumDef} {part : Section}
    (h : (Python.enumSection definition).Gives part) :
    part.head? ≠ some (indented 1 "def __post_init__(self):") := by
  obtain ⟨_, -, h⟩ := h.of_bind
  obtain ⟨members, -, h⟩ := h.of_bind
  extract_lets finish at h
  have finished (checked : PUnit) (h : (finish checked).Gives part) :
      part.head? ≠ some (indented 1 "def __post_init__(self):") :=
    h.of_pure ▸ head?_indent_ne (ne_of_head?_ne (by simp)) _
  split at h
  · obtain ⟨checked, -, h⟩ := h.of_bind
    exact finished checked h
  · exact finished () h

/-- A field is not declared like the method, with a bracket before the first colon. -/
theorem Python.begins_of_fieldLines {own : List Property} {lines : List String}
    (h : (own.mapM (Python.fieldLine context id)).Gives lines) (nonempty : lines ≠ []) :
    (Text.indent lines).head? ≠ some (indented 1 "def __post_init__(self):") := by
  cases lines with
  | nil => exact absurd rfl nonempty
  | cons line rest =>
    obtain ⟨name, after, -, isLine⟩ := Python.exists_fieldLine
      ((h.forall_of_mapM (P := fun line => ∃ property, (Python.fieldLine context id property).Gives
        line) fun property _ h => ⟨property, h⟩) line List.mem_cons_self).choose_spec
    refine head?_indent_ne (fun eq => ?_) rest
    have infixed : [':', ' '] <:+: "def __post_init__(self):".toList :=
      ⟨name.toList, after.toList, by simp [← eq, isLine]⟩
    exact absurd infixed (by decide)

/-- The hash does not begin like the method that makes the checks. -/
theorem Python.begins_of_hashSections {properties : List Property} {parts : List Section}
    (h : (Python.hashSections properties).Gives parts) :
    ∀ part ∈ parts, part.head? ≠ some (indented 1 "def __post_init__(self):") := by
  obtain ⟨freezing, -, h⟩ := h.of_bind
  split at h
  · simp [← h.of_pure]
  · obtain ⟨_, -, h⟩ := h.of_bind
    obtain ⟨terms, -, h⟩ := h.of_bind
    rw [← h.of_pure]
    intro part mem
    rw [List.mem_singleton.1 mem]
    exact head?_indent_ne (by decide) _

/-- A Python class is declared with its method among other sections, or has no sections. -/
theorem Python.constructs_of_sections (python : context.language = .python)
    {superCall? : Option (List String)} {fields : List GuardedField}
    (isOwn : fields.map (·.property) = (context.splitFields id).2)
    (writes : ∀ field ∈ fields, field.Writes context)
    (arguments : ∀ arguments ∈ superCall?, arguments = []) {superclass? : Option String}
    (isSuperclass : Option.Rel (fun base superclass =>
      (context.writtenSuperclass id base).Gives superclass) (context.superclass? id) superclass?)
    {inner before after : List Section}
    (begins : ∀ part ∈ before ++ after, part ∈ inner ∨
      part.head? ≠ some (indented 1 "def __post_init__(self):"))
    (decorators : List String)
    (dataclass : (context.splitFields id).2 ≠ [] →
      decorators = ["@dataclass(frozen=True, kw_only=True)"])
    (head : declaration.head =
      decorators ++ ["class " ++ (context.graph.get id).name ++ Python.bases superclass? ++ ":"])
    {sections : List Section}
    (eq : sections = before ++ Python.method superCall? (fields.flatMap (·.lines)) ++ after)
    (written : declaration.sections =
      if sections.isEmpty then [Text.indent ["pass"]] else sections) :
    context.Constructs id inner declaration ⟨[], superCall?, fields⟩ := by
  have spelled : Construction.Spells (context.graph.get id).name superclass? .python
      declaration.head (Python.method superCall? (fields.flatMap (·.lines)))
      ⟨[], superCall?, fields⟩ := by
    rw [head]
    exact @Construction.Spells.python _ _ _ ⟨[], superCall?, fields⟩ rfl arguments
      fun nonempty => dataclass (isOwn ▸ by simpa using nonempty)
  refine ⟨?_, isOwn, writes⟩
  rw [python]
  split at written
  · rename_i empty
    obtain ⟨-, none, -⟩ : before = [] ∧ Python.method superCall? (fields.flatMap (·.lines)) = [] ∧
        after = [] := by
      simpa [eq, and_assoc] using empty
    refine ⟨superclass?, [Text.indent ["pass"]], _, [], isSuperclass,
      by rw [written, none]; rfl, spelled, ?_⟩
    intro part mem
    obtain rfl : part = Text.indent ["pass"] := by simpa using mem
    exact .inr (head?_indent_ne (ne_of_head?_ne (by simp [openingLine])) _)
  · exact ⟨superclass?, before, _, after, isSuperclass, by rw [written, eq], spelled, begins⟩

/-- What a Python class says about making an object. -/
theorem Python.exists_constructs (python : context.language = .python)
    (named : ∀ id, (boxed? (context.graph.get id).name).isSome = false)
    (plain : (context.graph.get id).kind = .plain → (context.splitFields id).2 = [])
    (h : (Python.declaration context id nested).Gives declaration) :
    ∃ inner construction, nested.Gives inner ∧
      context.Constructs id inner declaration construction ∧ context.Passes id construction := by
  obtain ⟨parts, declares⟩ := Python.exists_parts h
  obtain ⟨superclass?, isSuperclass, bases⟩ := declares.bases.exists_rel
  obtain ⟨superCall?, fields, isOwn, writes, checks, arguments, calls⟩ :=
    Python.exists_fields python named declares.checks
  have isWritten : Option.Rel (fun base superclass =>
      (context.writtenSuperclass id base).Gives superclass) (context.superclass? id)
      superclass? := by
    unfold Context.writtenSuperclass
    rw [python]
    exact isSuperclass
  have enums := declares.enums.forall_of_mapM fun _ _ h => Python.begins_of_enumSection h
  have lines := Python.begins_of_fieldLines declares.fields
  have hash : ∀ part ∈ parts.hash, part.head? ≠ some (indented 1 "def __post_init__(self):") := by
    have written := declares.hash
    split at written
    · simp [← written.of_pure]
    · exact Python.begins_of_hashSections written
  have begins : ∀ part ∈ parts.enums ++ parts.inner ++
      (if parts.fields.isEmpty then [] else [Text.indent parts.fields]) ++ parts.hash,
      part ∈ parts.inner ∨ part.head? ≠ some (indented 1 "def __post_init__(self):") := by
    grind
  have sections : parts.sections = parts.enums ++ parts.inner ++
      (if parts.fields.isEmpty then [] else [Text.indent parts.fields]) ++
        Python.method superCall? (fields.flatMap (·.lines)) ++ parts.hash := by
    rw [Python.Parts.sections, checks]
  have dataclass (nonempty : (context.splitFields id).2 ≠ []) :
      (if (context.graph.get id).kind = .plain then [] else
        ["@dataclass(frozen=True, kw_only=True)"]) = ["@dataclass(frozen=True, kw_only=True)"] :=
    if_neg fun isPlain => nonempty (plain isPlain)
  have head := declares.head
  have spelled : parts.bases = Python.bases superclass? := by
    rw [bases]
    cases superclass? <;> rfl
  rw [spelled] at head
  refine ⟨parts.inner, ⟨[], superCall?, fields⟩, declares.inner,
    Python.constructs_of_sections python isOwn writes arguments isWritten begins _ dataclass head
      sections declares.sections, ⟨by simp [python], by simp [python], fun _ => calls⟩⟩

/-! ## Declarations -/

/-- Every declaration says how an object is made. -/
theorem Context.exists_constructs
    (named : ∀ id, (boxed? (context.graph.get id).name).isSome = false)
    (plain : (context.graph.get id).kind = .plain → (context.splitFields id).2 = [])
    (h : (context.declaration id nested).Gives declaration) :
    ∃ inner construction, nested.Gives inner ∧
      context.Constructs id inner declaration construction ∧ context.Passes id construction := by
  unfold Context.declaration at h
  split at h
  · exact Kotlin.exists_constructs ‹_› h
  · exact Java.exists_constructs ‹_› h
  · exact Python.exists_constructs ‹_› named plain h

end

end SchemaClasses
