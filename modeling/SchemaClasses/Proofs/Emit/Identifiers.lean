import SchemaClasses.Proofs.Emit.MemberNames
import SchemaClasses.Proofs.Generation

/-!
# The names in a declaration

A language reads a name that is an identifier, a letter or an underscore followed by letters, digits
and underscores, and no reserved word. A line feed at the end of a name is passed over when the name
is checked or put in Pascal case, and so it can stand in what is written. The names of classes and
enums are not compared with the reserved words; of these, only three of Python are in Pascal case.

## Main definitions

* `TargetLanguage.Admits`: the names that a language can read.
* `TargetLanguage.Spells`: the names of properties as they can be written.
* `Context.NamesTypes`: a declaration declares a class and its enums.
* `Context.NamesField`: what is written for a property calls it by a name.
* `Context.NamesConstants`: what is written for an enum calls its values by names.

## Main statements

* `Run.admits_typeName_iff`: which names of classes and enums a language can read.
* `Context.namesIdentifiers_iff`: which names of properties and enum values are identifiers.
-/

namespace SchemaClasses

open Emit

def Text.EndsWithLineFeed (text : String) : Prop := text.toList.getLast? = some '\n'

instance (text : String) : Decidable (Text.EndsWithLineFeed text) :=
  inferInstanceAs (Decidable (_ = _))

/-! ## Identifiers -/

section

variable {text : List Char}

/-- An identifier has only letters, digits and underscores in it, and no digit at its beginning. -/
theorem isPlainIdentifier_iff (nonempty : text ≠ []) : isPlainIdentifier text ↔
    (∀ c ∈ text, continuesIdentifier c) ∧ ∀ c ∈ text.head?, ¬c.isDigit := by
  cases text with
  | nil => exact absurd rfl nonempty
  | cons first rest =>
    have digit : first.isDigit → ¬beginsIdentifier first := by
      intro digit begins
      rcases Bool.or_eq_true_iff.1 begins with letter | underscore
      · exact not_isAlpha_of_isDigit digit letter
      · rw [of_decide_eq_true underscore] at digit
        exact absurd digit (by decide)
    have first' : continuesIdentifier first ↔ beginsIdentifier first ∨ first.isDigit := by
      simp only [continuesIdentifier, beginsIdentifier, Char.isAlphanum, Bool.or_eq_true]
      tauto
    simp only [isPlainIdentifier, Bool.and_eq_true, List.all_eq_true, List.forall_mem_cons,
      List.head?_cons, Option.mem_some_iff, forall_eq', first']
    tauto

/-- An identifier is a text that is one but for a line feed at its end, and does not have that. -/
theorem isPlainIdentifier_iff_dropFinalNewline : isPlainIdentifier text ↔
    isPlainIdentifier (Text.dropFinalNewline text) ∧ text.getLast? ≠ some '\n' := by
  unfold Text.dropFinalNewline
  split
  · rename_i last
    refine iff_of_false (fun plain => ?_) fun h => h.2 last
    have mem := List.mem_of_getLast? last
    have continues := ((isPlainIdentifier_iff (List.ne_nil_of_mem mem)).1 plain).1 _ mem
    exact absurd continues (by decide)
  · rename_i last
    exact (and_iff_left last).symm

theorem isPlainIdentifier_iff_of_isIdentifier {name : String} (valid : isIdentifier name) :
    isPlainIdentifier name.toList ↔ ¬Text.EndsWithLineFeed name := by
  rw [isPlainIdentifier_iff_dropFinalNewline]
  exact and_iff_right valid

/-- A text in Pascal case is an identifier, a line feed at its end being passed over. -/
theorem isPlainIdentifier_pascalChars (nonempty : pascalChars text ≠ []) :
    isPlainIdentifier (Text.dropFinalNewline (pascalChars text)) := by
  have letter {c : Char} (h : c.isAlphanum) : continuesIdentifier c := by
    simp [continuesIdentifier, h]
  unfold pascalChars at nonempty ⊢
  split
  · rename_i isPascal
    cases text with
    | nil => cases isPascal
    | cons first rest =>
      simp only [isPascalCase, Bool.and_eq_true, List.all_eq_true] at isPascal
      obtain ⟨⟨capital, kept⟩, -⟩ := isPascal
      have plain : first ≠ '\n' := by
        rintro rfl
        exact absurd capital (by decide)
      have notDigit : ¬first.isDigit := fun digit =>
        not_isAlpha_of_isDigit digit (isAlpha_iff.2 (.inl capital))
      rw [Text.dropFinalNewline_cons plain] at kept ⊢
      refine (isPlainIdentifier_iff (by simp)).2 ⟨fun c mem => letter (kept c mem), ?_⟩
      simpa using notDigit
  · rename_i notPascal
    rw [if_neg notPascal] at nonempty
    have noLineFeed : (guardDigit ((words text).flatMap capitalize)).getLast? ≠ some '\n' := by
      intro last
      exact absurd (eq_underscore_or_isAlphanum (List.mem_of_getLast? last)) (by decide)
    rw [Text.dropFinalNewline, if_neg noLineFeed]
    refine (isPlainIdentifier_iff nonempty).2 ⟨fun c mem => ?_, fun c first => ?_⟩
    · rcases eq_underscore_or_isAlphanum mem with rfl | alphanumeric
      · decide
      · exact letter alphanumeric
    · unfold guardDigit at first
      split at first
      · cases first
      · split at first
        · obtain rfl := Option.some.inj first
          decide
        · obtain rfl := Option.some.inj first
          assumption

end

/-! ## Types -/

structure TargetLanguage.Admits (language : TargetLanguage) (name : String) : Prop where
  plain : isPlainIdentifier name.toList
  free : name ∉ language.keywords

section

variable {language : TargetLanguage} {name : String}

/-- Only three reserved words of Python begin like the name of a class. -/
theorem IsClassName.mem_keywords_iff (h : IsClassName name) : name ∈ language.keywords ↔
    language = .python ∧ name ∈ ["False", "None", "True"] := by
  have begins (language : TargetLanguage) : ∀ word ∈ language.keywords,
      word.toList.head?.any (!Char.isLower ·) →
        language = .python ∧ word ∈ ["False", "None", "True"] := by
    cases language <;> decide +kernel
  refine ⟨fun reserved => begins language name reserved ?_, ?_⟩
  · obtain ⟨first, isFirst, notLower⟩ := h.exists_head
    simpa [Option.mem_def.1 isFirst] using notLower
  · rintro ⟨rfl, reserved⟩
    exact List.mem_append_left (_ : List String) reserved

/-- A name of a class or an enum can be read unless it ends with a line feed or is one of three
reserved words of Python. -/
theorem IsClassName.admits_iff (h : IsClassName name) : language.Admits name ↔
    ¬Text.EndsWithLineFeed name ∧ ¬(language = .python ∧ name ∈ ["False", "None", "True"]) := by
  obtain ⟨text, eq, nonempty⟩ := h.exists_pascalChars
  have valid : isIdentifier name := by
    rw [isIdentifier, eq]
    exact isPlainIdentifier_pascalChars nonempty
  rw [← isPlainIdentifier_iff_of_isIdentifier valid, ← h.mem_keywords_iff]
  exact ⟨fun admits => ⟨admits.plain, admits.free⟩, fun ⟨plain, free⟩ => ⟨plain, free⟩⟩

end

def classWords (language : TargetLanguage) (model : ClassModel) : String :=
  match language with
  | .kotlin => Kotlin.classWords model.kind ++ " "
  | .java => if model.enclosing.isSome then "public static class " else "public class "
  | .python => "class "

def enumWords : TargetLanguage → String
  | .kotlin => "enum class "
  | .java => "public enum "
  | .python => "class "

def Context.typeNames (context : Context) (id : ClassId) : List String :=
  (context.graph.get id).name :: (context.graph.get id).enums.map (·.name)

/-- A line declares a type under a name, which ends where the line does or before a space, a
parenthesis or a colon. -/
def NamesType (words name line : String) : Prop :=
  ∃ rest, line = words ++ (name ++ rest) ∧ ∀ c ∈ rest.toList.head?, c ∈ [' ', '(', ':']

/-- A declaration declares a class, and its sections declare the enums of the class. -/
structure Context.NamesTypes (context : Context) (id : ClassId) (declaration : Declaration) :
    Prop where
  head : ∃ line ∈ declaration.head,
    NamesType (classWords context.language (context.graph.get id)) (context.graph.get id).name line
  enums : ∃ before enums after, declaration.sections = before ++ enums ++ after ∧
    List.Forall₂ (fun definition part => ∃ line, part.head? = some (indented 1 line) ∧
      NamesType (enumWords context.language) definition.name line)
      (context.graph.get id).enums enums

section

variable {context : Context} {id : ClassId} {declaration : Declaration}
  {nested : Emit (List Section)}

/-- What a Kotlin class declares: itself by its head, and an enum in a section for each. -/
theorem Kotlin.namesTypes (kotlin : context.language = .kotlin)
    (h : (Kotlin.declaration context id nested).Gives declaration) :
    context.NamesTypes id declaration := by
  obtain ⟨parts, declare⟩ := exists_parts h
  refine ⟨?_, [], parts.enums, parts.init ++ parts.equality ++ parts.inner, ?_, ?_⟩
  · have supertype : ∀ c ∈ parts.supertype.toList.head?, c = ' ' := by
      have written := declare.supertype
      unfold superclassCall at written
      split at written
      · rw [← written.of_pure]
        nofun
      · obtain ⟨arguments, -, written⟩ := written.of_bind
        obtain ⟨name, -, written⟩ := written.of_bind
        rw [← written.of_pure]
        simp
    rw [declare.head, Kotlin.head, kotlin]
    split
    · refine ⟨_, List.mem_singleton_self _, parts.supertype,
        by simp [SchemaClasses.classWords, String.append_assoc], ?_⟩
      intro c begins
      simp [supertype c begins]
    · exact ⟨_, List.mem_append_left _ (List.mem_append_left _ (List.mem_singleton_self _)), "(",
        by simp [SchemaClasses.classWords, String.append_assoc], by simp⟩
  · simp [declare.sections]
  · refine declare.enums.of_mapM.imp fun definition part given => ?_
    obtain ⟨rest, rfl⟩ := exists_enumSection given
    rw [Kotlin.indent_cons (c := 'e') (by simp)]
    exact ⟨_, rfl, " \x7b", by simp [enumWords, kotlin, String.append_assoc], by simp⟩

/-- What a Java class declares: itself by its head, and an enum in a section for each. -/
theorem Java.namesTypes (java : context.language = .java)
    (h : (Java.declaration context id nested).Gives declaration) :
    context.NamesTypes id declaration := by
  obtain ⟨parts, declare⟩ := exists_parts h
  refine ⟨⟨_, by rw [declare.head]; exact List.mem_singleton_self _, parts.extension ++ " \x7b", ?_,
    ?_⟩, (if (context.splitFields id).2.isEmpty then [] else [Text.indent parts.fields]) ++
      parts.constructor ++ parts.getters ++ parts.equality, parts.enums, parts.inner,
    declare.sections, ?_⟩
  · simp [classWords, java, String.append_assoc]
  · obtain ⟨written?, -, eq⟩ := declare.extension.exists_rel
    rw [eq]
    cases written? <;> simp
  · refine declare.enums.of_mapM.imp fun definition part given => ?_
    obtain ⟨rest, rfl⟩ := exists_enumSection given
    rw [Kotlin.indent_cons (c := 'p') (by simp)]
    exact ⟨_, rfl, " \x7b", by simp [enumWords, java, String.append_assoc], by simp⟩

/-- What a Python class declares: itself by its head, and an enum in a section for each. -/
theorem Python.namesTypes (python : context.language = .python)
    (h : (Python.declaration context id nested).Gives declaration) :
    context.NamesTypes id declaration := by
  obtain ⟨parts, declare⟩ := exists_parts h
  obtain ⟨others, sections⟩ := declare.exists_others
  refine ⟨⟨_, by rw [declare.head]; exact List.mem_append_right _ (List.mem_singleton_self _),
    parts.bases ++ ":", ?_, ?_⟩, [], parts.enums, parts.inner ++
      (if parts.fields.isEmpty then [] else [Text.indent parts.fields]) ++ others, ?_, ?_⟩
  · simp [classWords, python, String.append_assoc]
  · obtain ⟨written?, -, eq⟩ := declare.bases.exists_rel
    rw [eq]
    cases written? <;> simp
  · simp [sections]
  · refine (areEnums_of_gives declare.enums).flip.imp fun definition part enum => ?_
    obtain ⟨members, rfl, -⟩ := enum
    exact ⟨_, rfl, "(str, Enum):", by simp [enumWords, python, String.append_assoc], by simp⟩

/-- The declaration of a class declares it and its enums under their names. -/
theorem Context.Declares.namesTypes (declares : context.Declares id declaration) :
    context.NamesTypes id declaration := by
  have named : (context.place id).NamesTypes id declaration := by
    unfold Context.Declares Context.declaration at declares
    cases language : context.language with
    | kotlin =>
      rw [show (context.place id).language = .kotlin from language] at declares
      exact Kotlin.namesTypes language declares
    | java =>
      rw [show (context.place id).language = .java from language] at declares
      exact Java.namesTypes language declares
    | python =>
      rw [show (context.place id).language = .python from language] at declares
      exact Python.namesTypes language declares
  exact ⟨named.head, named.enums⟩

end

section

variable {document package : Value} {registered : List Definition}
  {returned : List (Definition × ClassId)} {succeeded : Bool} {s : BuildState} {context : Context}
  {id : ClassId} {declaration : Declaration}

/-- The names under which the classes and enums of a run are declared can be read by the language
unless they end with a line feed or, in Python, are one of three reserved words. -/
theorem Run.admits_typeName_iff (distinct : document.distinctKeys)
    (run : Run ⟨.ofValue document, package⟩ registered returned succeeded s)
    (graph : context.graph = s.graph) (inside : id < s.graph.size)
    (declares : context.Declares id declaration) :
    context.NamesTypes id declaration ∧ ∀ name ∈ context.typeNames id,
      (context.language.Admits name ↔ ¬Text.EndsWithLineFeed name ∧
        ¬(context.language = .python ∧ name ∈ ["False", "None", "True"])) := by
  have outermost := (run.invariant distinct rfl).sound.outermost
  refine ⟨declares.namesTypes, fun name mem => ?_⟩
  rw [Context.typeNames, graph, List.mem_cons, List.mem_map] at mem
  rcases mem with rfl | ⟨definition, mem, rfl⟩
  · exact (outermost.name inside).admits_iff
  · exact (outermost.enum mem).2.admits_iff

theorem Run.admits_typeName_iff_car : ∃ id s,
    buildRoot ⟨.ofValue (car "color"), .string ""⟩ (.ofValue (car "color")) (some "Car") {} =
      .ok id s ∧
    ∀ language ∈ TargetLanguage.all, ∃ (context : Context) (declaration : Declaration),
      context.graph = s.graph ∧ context.language = language ∧ 0 < s.graph.size ∧
      context.Declares 0 declaration ∧ context.NamesTypes 0 declaration ∧
      context.typeNames 0 = ["Car", "Color"] ∧ ∀ name ∈ ["Car", "Color"], language.Admits name := by
  let context (graph : ClassGraph) (language : TargetLanguage) : Context :=
    { graph, settings := {}, language }
  have built : ((buildRoot ⟨.ofValue (car "color"), .string ""⟩ (.ofValue (car "color"))
      (some "Car") >>= fun _ => get).run' {}).any fun s =>
        0 < s.graph.size ∧ ∀ language ∈ TargetLanguage.all,
          (context s.graph language).writesText 0 ∧
          (context s.graph language).typeNames 0 = ["Car", "Color"] := by
    decide +kernel
  obtain ⟨id, s, run, test⟩ := Build.exists_of_any built
  obtain ⟨inside, each⟩ := of_decide_eq_true test
  have distinct : (car "color").distinctKeys := by decide
  have sound := ((Run.root run).invariant distinct rfl).sound
  refine ⟨id, s, run, fun language mem => ?_⟩
  obtain ⟨written, names⟩ := each language mem
  obtain ⟨declaration, declares⟩ := Context.declares_of_writesText sound rfl written
  obtain ⟨namesTypes, admits⟩ := Run.admits_typeName_iff distinct (.root run)
    (rfl : (context s.graph language).graph = s.graph) inside declares
  refine ⟨context s.graph language, declaration, rfl, rfl, inside, declares, namesTypes, names, ?_⟩
  intro name mem
  have apart : ∀ name ∈ ["Car", "Color"], ¬Text.EndsWithLineFeed name ∧
      ¬(language = .python ∧ name ∈ ["False", "None", "True"]) := by
    cases language <;> decide
  exact (admits name (names ▸ mem)).2 (apart name mem)

/-- A document whose definitions have a reserved word for a name, and a name with a line feed. -/
def oddlyNamed : Value := .object [("definitions", .object [
  ("None", .object [("type", .string "object")]),
  ("Pet\n", .object [("type", .string "object")])])]

/-- A run may write a class under a name that is a reserved word of Python, and one under a name
that is no identifier. -/
theorem oddlyNamed_not_admits : ∃ graph classes files,
    requestedClasses (.ofValue oddlyNamed) {} (.members "#/definitions" none) =
      .ok (graph, classes) ∧
    render (.ofValue oddlyNamed) {} .python (.members "#/definitions" none) = .ok files ∧
    ∃ (context : Context) (none pet : Declaration), context.graph = graph ∧
      context.language = .python ∧ context.Declares 0 none ∧ context.NamesTypes 0 none ∧
      context.Declares 1 pet ∧ context.NamesTypes 1 pet ∧
      context.typeNames 0 = ["None"] ∧ "None" ∈ TargetLanguage.python.keywords ∧
      context.typeNames 1 = ["Pet\n"] ∧ ¬isPlainIdentifier "Pet\n".toList := by
  let context (graph : ClassGraph) : Context := { graph, settings := {}, language := .python }
  have built : ((requestedClasses (.ofValue oddlyNamed) {}
      (.members "#/definitions" none)).toOption.any fun result => decide (
        (context result.1).writesText 0 ∧ (context result.1).writesText 1 ∧
        (context result.1).typeNames 0 = ["None"] ∧
        (context result.1).typeNames 1 = ["Pet\n"])) &&
      (render (.ofValue oddlyNamed) {} .python
        (.members "#/definitions" none)).toOption.any fun _ => true := by
    decide +kernel
  obtain ⟨requested, rendered⟩ := Bool.and_eq_true_iff.1 built
  obtain ⟨⟨graph, classes⟩, asked, test⟩ := Except.exists_of_any requested
  obtain ⟨writesNone, writesPet, names, names'⟩ := of_decide_eq_true test
  obtain ⟨files, rendered, -⟩ := Except.exists_of_any rendered
  obtain ⟨registered, returned, s, run, rfl⟩ := Run.of_requested asked
  have sound := (run.invariant (by decide) rfl).sound
  obtain ⟨none, declaresNone⟩ := Context.declares_of_writesText sound rfl writesNone
  obtain ⟨pet, declaresPet⟩ := Context.declares_of_writesText sound rfl writesPet
  exact ⟨s.graph, classes, files, asked, rendered, context s.graph, none, pet, rfl, rfl,
    declaresNone, declaresNone.namesTypes, declaresPet, declaresPet.namesTypes, names, by decide,
    names', by decide⟩

end

/-! ## Members -/

/-- A text is a name as it is written for a property: an identifier, or in Kotlin a reserved word
between back quotes. -/
def TargetLanguage.Spells (language : TargetLanguage) (name : String) : Prop :=
  isPlainIdentifier name.toList ∨
    (language = .kotlin ∧ ∃ word ∈ language.keywords, name = "\x60" ++ word ++ "\x60")

section

variable {language : TargetLanguage} {name word : String}

theorem isPlainIdentifier_of_mem_keywords (mem : word ∈ language.keywords) :
    isPlainIdentifier word.toList := by
  have each : ∀ word ∈ language.keywords, isPlainIdentifier word.toList := by
    cases language <;> decide +kernel
  exact each word mem

theorem isPlainIdentifier_append_underscore {text : List Char} (plain : isPlainIdentifier text) :
    isPlainIdentifier (text ++ ['_']) := by
  cases text with
  | nil => cases plain
  | cons first rest =>
    have underscore : continuesIdentifier '_' := by decide
    simp_all [isPlainIdentifier]

theorem spells_escapeKeyword (mem : word ∈ language.keywords) :
    language.Spells (escapeKeyword language word) := by
  have plain := isPlainIdentifier_append_underscore (isPlainIdentifier_of_mem_keywords mem)
  cases language with
  | kotlin => exact .inr ⟨rfl, word, mem, rfl⟩
  | java => exact .inl (by simpa [escapeKeyword] using plain)
  | python => exact .inl (by simpa [escapeKeyword] using plain)

/-- The identifier of a property is one unless the name of the property ends with a line feed. -/
theorem spells_identifierOf_iff (valid : isIdentifier name) :
    language.Spells (identifierOf language name) ↔ ¬Text.EndsWithLineFeed name := by
  rw [← isPlainIdentifier_iff_of_isIdentifier valid]
  by_cases reserved : name ∈ language.keywords
  · rw [identifierOf_of_mem reserved]
    exact iff_of_true (spells_escapeKeyword reserved) (isPlainIdentifier_of_mem_keywords reserved)
  · rw [identifierOf_of_notMem reserved]
    refine or_iff_left ?_
    rintro ⟨-, word, -, rfl⟩
    -- A back quote does not begin an identifier.
    have quoted : ("\x60" ++ word ++ "\x60").toList = '\x60' :: (word.toList ++ ['\x60']) := by simp
    rw [isIdentifier, quoted, Text.dropFinalNewline_cons (by decide), isPlainIdentifier,
      Bool.and_eq_true] at valid
    exact absurd valid.1 (by decide)

/-- A getter is named by an identifier unless a line feed ends the name of the property. -/
theorem isPlainIdentifier_getterName_iff (valid : isIdentifier name) :
    isPlainIdentifier (Java.getterName (identifierOf .java name)).toList ↔
      ¬Text.EndsWithLineFeed name := by
  have spelled : TargetLanguage.java.Spells (identifierOf .java name) ↔
      ¬Text.EndsWithLineFeed name := spells_identifierOf_iff valid
  rw [TargetLanguage.Spells, or_iff_left (by simp)] at spelled
  obtain ⟨first, rest, chars, begins⟩ := Java.exists_identifierOf valid
  have capital := continuesIdentifier_toUpper (continuesIdentifier_of_begins begins)
  have getter : (Java.getterName (identifierOf .java name)).toList =
      'g' :: 'e' :: 't' :: first.toUpper :: rest := by
    simp [Java.getterName, chars]
  have letters : beginsIdentifier 'g' ∧ continuesIdentifier 'e' ∧ continuesIdentifier 't' := by
    decide
  rw [← spelled, getter, chars]
  simp [isPlainIdentifier, begins, capital, letters]

/-- The constant of an enum value in Python does not end with a line feed. -/
theorem not_endsWithLineFeed_constantCase (value : String) :
    ¬Text.EndsWithLineFeed (constantCase value) := by
  intro last
  have mem := List.mem_of_getLast? last
  rw [constantCase, String.toList_ofList, List.mem_map] at mem
  obtain ⟨c, -, eq⟩ := mem
  split at eq
  · rename_i continues
    exact ne_lineFeed_of_continuesIdentifier (continuesIdentifier_toUpper continues) eq
  · cases eq

/-- The constant of an enum value is an identifier unless the value ends with a line feed, which it
may do in Python. -/
theorem enumConstant_cases (language : TargetLanguage) (enumName value : String) :
    (∃ construct,
      enumConstant language enumName value = .error (.unsupportedTarget language.name construct)) ∨
    ∃ constant, enumConstant language enumName value = .ok constant ∧
      (isPlainIdentifier constant.toList ↔
        (language = .python ∨ ¬Text.EndsWithLineFeed value)) := by
  unfold enumConstant
  extract_lets constant
  split
  · rename_i accepted
    have valid : isIdentifier constant := (Bool.and_eq_true_iff.1 accepted).1
    refine .inr ⟨constant, rfl, ?_⟩
    rw [isPlainIdentifier_iff_of_isIdentifier valid]
    by_cases python : language = .python
    · have eq : constant = constantCase value := if_pos python
      rw [eq]
      exact iff_of_true (not_endsWithLineFeed_constantCase value) (.inl python)
    · have eq : constant = value := if_neg python
      rw [eq]
      exact (or_iff_right python).symm
  · exact .inl ⟨_, rfl⟩

/-- The name of a field is the identifier of its property, or the name is refused. -/
theorem fieldName_cases (language : TargetLanguage) (property : Property) :
    (∃ construct,
      fieldName language property = .error (.unsupportedTarget language.name construct)) ∨
    isIdentifier property.name ∧
      fieldName language property = .ok (identifierOf language property.name) := by
  by_cases valid : isIdentifier property.name
  · exact .inr ⟨valid, fieldName_eq_ok_iff.2 ⟨valid, rfl⟩⟩
  · exact .inl ⟨_, by simp only [fieldName, valid]; rfl⟩

end

/-! ## Where names are written -/

def Context.ChecksField (context : Context) (property : Property) (name : String)
    (lines : List String) : Prop :=
  ∃ field : GuardedField, field.property = property ∧ field.lines = lines ∧
    ∀ written ∈ field.guards, ∃ itemType key?, (guardLines context.language written.1
      (checkedValue context.language name) itemType key?).Gives written.2

structure Kotlin.NamesField (context : Context) (property : Property) (name : String) : Prop where
  parameter : ∀ declares text, (parameter context declares property).Gives text →
    IsParameter text name
  guards : ∀ lines, (guardsOfProperty context property).Gives lines →
    context.ChecksField property name lines

structure Java.NamesField (context : Context) (property : Property) (name : String) : Prop where
  field : ∀ line, (fieldLine context property).Gives line → ∃ type,
    line = "private final " ++ type ++ " " ++ name ++ ";"
  parameter : ∀ text, (parameter context property).Gives text → IsParameter text name
  getter : ∀ part, (getterSection context property).Gives part → ∃ type, part = Text.indent
    ["public " ++ type ++ " " ++ getterName name ++ "() \x7b",
      indented 1 ("return " ++ name ++ ";"), "\x7d"]
  guards : ∀ lines, (assignment context property).Gives lines → ∃ checks value,
    lines = checks ++ ["this." ++ name ++ " = " ++ value ++ ";"] ∧
      context.ChecksField property name checks

structure Python.NamesField (context : Context) (id : ClassId) (property : Property)
    (name : String) : Prop where
  field : ∀ line, (fieldLine context id property).Gives line → ∃ rest,
    line = name ++ (": " ++ rest)
  guards : ∀ lines, (guardsOfProperty context property).Gives lines →
    context.ChecksField property name lines

/-- What a class writes for a property calls it by a name. -/
def Context.NamesField (context : Context) (id : ClassId) (property : Property) (name : String) :
    Prop :=
  match context.language with
  | .kotlin => Kotlin.NamesField context property name
  | .java => Java.NamesField context property name
  | .python => Python.NamesField context id property name

def enumSection : TargetLanguage → EnumDef → Emit Section
  | .kotlin => Kotlin.enumSection
  | .java => Java.enumSection
  | .python => Python.enumSection

/-- The lines of an enum declare the constants of its values. -/
def NamesConstants (language : TargetLanguage) (definition : EnumDef) (part : Section) : Prop :=
  ∃ constants, definition.values.mapM (enumConstant language definition.name) = .ok constants ∧
    part = Text.indent (match language with
      | .python => ("class " ++ definition.name ++ "(str, Enum):") ::
        List.zipWith (fun constant value =>
          indented 1 (constant ++ " = " ++ stringLiteral .python value)) constants definition.values
      | _ => [enumWords language ++ definition.name ++ " \x7b"] ++
        (withCommas constants).map (indented 1) ++ ["\x7d"])

section

variable {context : Context} {id : ClassId} {property : Property} {name : String}
  {definition : EnumDef} {part : Section} {lines : List String}

theorem GuardedField.Writes.checksField {field : GuardedField}
    (named : fieldName context.language field.property = .ok name) (h : field.Writes context) :
    context.ChecksField field.property name field.lines := by
  refine ⟨field, rfl, rfl, fun written mem => ?_⟩
  obtain ⟨name', itemType, key?, named', given⟩ := h.lines written mem
  obtain rfl := Except.ok.inj (named'.symm.trans named)
  exact ⟨itemType, key?, given⟩

theorem Kotlin.namesField (kotlin : context.language = .kotlin)
    (named : fieldName context.language property = .ok name) :
    Kotlin.NamesField context property name := by
  refine ⟨fun declares text h => ?_, fun lines h => ?_⟩
  · obtain ⟨name', named', isParameter⟩ := exists_isParameter h
    rw [kotlin] at named
    obtain rfl := Except.ok.inj (named'.symm.trans named)
    exact isParameter
  · obtain ⟨field, rfl, writes, rfl⟩ := exists_writes kotlin h
    exact writes.checksField named

/-- Every line that a Java class writes for a property has the same name in it. -/
theorem Java.namesField (java : context.language = .java)
    (named : fieldName context.language property = .ok name) :
    Java.NamesField context property name := by
  have named' := java ▸ named
  obtain ⟨-, rfl⟩ := fieldName_eq_ok_iff.1 named'
  refine ⟨fun line h => (exists_fieldLine h).2, fun text h => ?_,
    fun part h => exists_getterLines h, fun lines h => ?_⟩
  · obtain ⟨name, isName, isParameter⟩ := exists_isParameter h
    obtain rfl := Except.ok.inj (isName.symm.trans named')
    exact isParameter
  · obtain ⟨field, ⟨rfl, writes⟩, name, value, isName, isLines⟩ := exists_assignment java h
    obtain rfl := Except.ok.inj (isName.symm.trans named')
    exact ⟨field.lines, value, isLines, writes.checksField named⟩

theorem Python.namesField (python : context.language = .python)
    (named : fieldName context.language property = .ok name) :
    Python.NamesField context id property name := by
  refine ⟨fun line h => ?_, fun lines h => ?_⟩
  · obtain ⟨name', rest, named', isLine⟩ := exists_fieldLine h
    rw [python] at named
    obtain rfl := Except.ok.inj (named'.symm.trans named)
    exact ⟨rest, isLine⟩
  · obtain ⟨field, rfl, writes, rfl⟩ := exists_writes python h
    exact writes.checksField named

/-- A property is called by its identifier in all places. -/
theorem Context.namesField (id : ClassId)
    (named : fieldName context.language property = .ok name) :
    context.NamesField id property name := by
  unfold Context.NamesField
  split
  · exact Kotlin.namesField ‹_› named
  · exact Java.namesField ‹_› named
  · exact Python.namesField ‹_› named

theorem constants_of_gives {language : TargetLanguage} {constants : List String}
    (h : (definition.values.mapM fun value =>
      Emit.ofExcept (enumConstant language definition.name value)).Gives constants) :
    definition.values.mapM (enumConstant language definition.name) = .ok constants :=
  mapM_eq_ok_of_forall₂ (h.of_mapM.imp fun _ _ named => named.of_ofExcept)

/-- The members of a Python enum are pairs of a constant and its value. -/
theorem Python.members_of_gives {members : List (String × String)}
    (h : (definition.values.mapM fun value => do
      let name ← Emit.ofExcept (enumConstant .python definition.name value)
      return (name, value)).Gives members) :
    definition.values.mapM (enumConstant .python definition.name) = .ok (members.map (·.1)) ∧
      definition.values = members.map (·.2) := by
  have each : List.Forall₂ (fun value member =>
      enumConstant .python definition.name value = .ok member.1 ∧ value = member.2)
      definition.values members := by
    refine h.of_mapM.imp fun value member given => ?_
    obtain ⟨constant, isConstant, given⟩ := given.of_bind
    rw [← given.of_pure]
    exact ⟨isConstant.of_ofExcept, rfl⟩
  refine ⟨mapM_eq_ok_of_forall₂ (List.forall₂_map_right_iff.2 (each.imp fun _ _ h => h.1)), ?_⟩
  exact List.forall₂_eq_eq_eq ▸ List.forall₂_map_right_iff.2 (each.imp fun _ _ h => h.2)

/-- Each value of an enum has its constant, in every language. -/
theorem namesConstants_of_gives {language : TargetLanguage}
    (h : (enumSection language definition).Gives part) :
    NamesConstants language definition part := by
  cases language with
  | kotlin =>
    obtain ⟨constants, named, h⟩ := h.of_bind
    exact ⟨constants, constants_of_gives named, h.of_pure.symm⟩
  | java =>
    obtain ⟨constants, named, h⟩ := h.of_bind
    exact ⟨constants, constants_of_gives named, h.of_pure.symm⟩
  | python =>
    obtain ⟨_, -, h⟩ := Emit.Gives.of_bind h
    obtain ⟨members, named, h⟩ := h.of_bind
    obtain ⟨constants, values⟩ := Python.members_of_gives named
    refine ⟨members.map (·.1), constants, ?_⟩
    have lines : List.zipWith (fun constant value =>
        indented 1 (constant ++ " = " ++ stringLiteral .python value)) (members.map (·.1))
        definition.values = members.map fun member =>
          indented 1 (member.1 ++ " = " ++ stringLiteral .python member.2) := by
      rw [values, List.zipWith_map, List.zipWith_self]
    simp only [lines]
    extract_lets finish at h
    split at h
    · obtain ⟨_, -, h⟩ := h.of_bind
      exact h.of_pure.symm
    · exact h.of_pure.symm

/-- A language either refuses the name of a property and the value of an enum or writes it as an
identifier, wherever it is written, unless it ends with a line feed. -/
theorem Context.namesIdentifiers_iff (context : Context) (id : ClassId) (property : Property)
    (definition : EnumDef) :
    ((∃ construct, fieldName context.language property =
        .error (.unsupportedTarget context.language.name construct)) ∨
      ∃ name, fieldName context.language property = .ok name ∧
        context.NamesField id property name ∧
        (context.language.Spells name ↔ ¬Text.EndsWithLineFeed property.name) ∧
        (context.language = .java → (isPlainIdentifier (Java.getterName name).toList ↔
          ¬Text.EndsWithLineFeed property.name))) ∧
    (∀ part, (enumSection context.language definition).Gives part →
      NamesConstants context.language definition part) ∧
    ∀ value, (∃ construct, enumConstant context.language definition.name value =
        .error (.unsupportedTarget context.language.name construct)) ∨
      ∃ constant, enumConstant context.language definition.name value = .ok constant ∧
        (isPlainIdentifier constant.toList ↔
          (context.language = .python ∨ ¬Text.EndsWithLineFeed value)) := by
  refine ⟨?_, fun part h => namesConstants_of_gives h, enumConstant_cases _ _⟩
  refine (fieldName_cases context.language property).imp_right fun ⟨valid, named⟩ => ?_
  refine ⟨_, named, Context.namesField id named, spells_identifierOf_iff valid, fun java => ?_⟩
  rw [java]
  exact isPlainIdentifier_getterName_iff valid

def lineFed : Value := .object [
  ("properties", .object [("kind\n", .object [("enum", .array [.string "a\n"])])])]

/-- Every language writes a line feed where it calls a property by its name. -/
theorem lineFed_not_spells : ∃ id s,
    buildRoot ⟨.ofValue lineFed, .string ""⟩ (.ofValue lineFed) (some "Point") {} = .ok id s ∧
    ∀ language ∈ TargetLanguage.all, ∃ (context : Context) (property : Property)
      (declaration : Declaration), context.graph = s.graph ∧ context.language = language ∧
      context.Declares 0 declaration ∧ (context.splitFields 0).2 = [property] ∧
      fieldName language property = .ok "kind\n" ∧ context.NamesField 0 property "kind\n" ∧
      ¬language.Spells "kind\n" ∧ ∃ definition, (context.graph.get 0).enums = [definition] ∧
        (language ≠ .python → enumConstant language definition.name "a\n" = .ok "a\n" ∧
          "a\n" ∈ definition.values ∧ ¬isPlainIdentifier "a\n".toList) := by
  let context (graph : ClassGraph) (language : TargetLanguage) : Context :=
    { graph, settings := {}, language }
  have built : ((buildRoot ⟨.ofValue lineFed, .string ""⟩ (.ofValue lineFed) (some "Point") >>=
      fun _ => get).run' {}).any fun s => TargetLanguage.all.all fun language =>
        (context s.graph language).writesText 0 &&
        ((context s.graph language).splitFields 0).2.map (·.name) = ["kind\n"] &&
        (s.graph.get 0).enums.map (fun definition => (definition.name, definition.values)) =
          [("Kind", ["a\n"])] := by
    decide +kernel
  obtain ⟨id, s, run, test⟩ := Build.exists_of_any built
  have sound := ((Run.root run).invariant (by decide : lineFed.distinctKeys) rfl).sound
  refine ⟨id, s, run, fun language mem => ?_⟩
  have test := List.all_eq_true.1 test language mem
  simp only [Bool.and_eq_true, decide_eq_true_eq, List.map_eq_singleton_iff, Prod.mk.injEq] at test
  obtain ⟨⟨written, property, own, name⟩, definition, enums, enumName, values⟩ := test
  obtain ⟨declaration, declares⟩ := Context.declares_of_writesText sound rfl written
  have valid : isIdentifier property.name ∧ identifierOf language property.name = "kind\n" := by
    rw [name]
    cases language <;> decide +kernel
  have named := fieldName_eq_ok_iff.2 valid
  refine ⟨context s.graph language, property, declaration, rfl, rfl, declares, own, named,
    Context.namesField 0 named, ?_, definition, enums,
    fun notPython => ⟨?_, values ▸ by decide, by decide⟩⟩
  · rw [← valid.2, spells_identifierOf_iff valid.1, name]
    decide
  · rw [enumName]
    cases language with
    | python => exact absurd rfl notPython
    | _ => decide +kernel

end

end SchemaClasses
