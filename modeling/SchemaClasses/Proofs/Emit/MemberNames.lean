import SchemaClasses.Proofs.Build.WellFormed
import SchemaClasses.Proofs.Emit.Outline
import SchemaClasses.Proofs.Emit.ValueEquality

/-!
# The names of the members of a class

The identifier of a property is its name. A reserved word gets an underscore, and so it may get the
name of another property. A getter is named after a field whose first letter it writes as a capital,
and so two fields may have one getter. The types that are declared in a class have distinct names,
but in Python fields are looked up among them.

## Main definitions

* `identifierOf`: the identifier of a property.
* `Context.fieldNames`: the identifiers of the fields that a class declares.
* `Java.DeclaresMembers`, `Python.Binds`: what a declaration declares under which names.
* `Java.AlikeFields`, `Java.AlikeGetters`: names of properties that get the same field or getter.
* `Python.boundNames`: the names that are bound in the body of a class.

## Main statements

* `Java.membersDistinct_iff`: when the fields and the getters of a class have distinct names.
* `Run.boundNames_nodup_iff`: when the names in the body of a class in Python are distinct.
-/

namespace SchemaClasses

open Emit

/-- A text without the line feed at its end, as it is read where line feeds are white space. -/
def Text.withoutLineFeed (text : String) : String := String.ofList (dropFinalNewline text.toList)

theorem Text.dropFinalNewline_cons {c : Char} {rest : List Char} (h : c ≠ '\n') :
    dropFinalNewline (c :: rest) = c :: dropFinalNewline rest := by
  unfold dropFinalNewline
  cases rest with
  | nil => simp [h]
  | cons next rest =>
    rw [List.getLast?_cons_cons, List.dropLast_cons_cons]
    split <;> rfl

/-- Dropping a final line feed keeps the first character. -/
theorem Text.exists_of_dropFinalNewline {text rest : List Char} {c : Char}
    (h : dropFinalNewline text = c :: rest) : ∃ more, text = c :: more := by
  unfold dropFinalNewline at h
  split at h
  · cases text with
    | nil => cases h
    | cons first others =>
      cases others with
      | nil => cases h
      | cons next others =>
        rw [List.dropLast_cons_cons] at h
        exact ⟨_, by rw [(List.cons.inj h).1]⟩
  · exact ⟨rest, h⟩

theorem Text.withoutLineFeed_of_getLast? {text : String} {c : Char}
    (last : text.toList.getLast? = some c) (h : c ≠ '\n') : withoutLineFeed text = text := by
  simp [withoutLineFeed, dropFinalNewline, last, h]

/-! ## Identifiers -/

theorem continuesIdentifier_of_begins {c : Char} (h : beginsIdentifier c) :
    continuesIdentifier c := by
  simp only [beginsIdentifier, continuesIdentifier, Char.isAlphanum, Bool.or_eq_true] at h ⊢
  tauto

/-- A character of an identifier can stand in one as a capital, too. -/
theorem continuesIdentifier_toUpper {c : Char} (h : continuesIdentifier c) :
    continuesIdentifier c.toUpper := by
  rcases Bool.or_eq_true_iff.1 h with letter | underscore
  · simp [continuesIdentifier, isAlphanum_toUpper letter]
  · rw [of_decide_eq_true underscore]
    decide

theorem ne_lineFeed_of_continuesIdentifier {c : Char} (h : continuesIdentifier c) : c ≠ '\n' := by
  rintro rfl
  exact absurd h (by decide)

def identifierOf (language : TargetLanguage) (name : String) : String :=
  if language.keywords.contains name then escapeKeyword language name else name

/-- A text is the identifier of a property that is named by a reserved word. -/
def Escapes (language : TargetLanguage) (word text : String) : Prop :=
  word ∈ language.keywords ∧ text = escapeKeyword language word

instance (language : TargetLanguage) (word text : String) :
    Decidable (Escapes language word text) :=
  inferInstanceAs (Decidable (_ ∧ _))

section

variable {language : TargetLanguage} {property : Property} {name other word : String}
  {properties : List Property}

theorem fieldName_eq_ok_iff : fieldName language property = .ok name ↔
    isIdentifier property.name ∧ identifierOf language property.name = name := by
  unfold fieldName identifierOf
  by_cases valid : isIdentifier property.name
  · by_cases reserved : property.name ∈ language.keywords <;> simp [valid, reserved]
  · simp [valid, unsupportedIn]

theorem identifierOf_of_mem (h : name ∈ language.keywords) :
    identifierOf language name = escapeKeyword language name := by
  simp [identifierOf, h]

theorem identifierOf_of_notMem (h : name ∉ language.keywords) :
    identifierOf language name = name := by
  simp [identifierOf, h]

/-- Reserved words end with letters. -/
theorem exists_getLast?_of_mem_keywords (h : word ∈ language.keywords) :
    ∃ c, word.toList.getLast? = some c ∧ c.isAlpha := by
  have each : ∀ word ∈ language.keywords, word.toList.getLast?.any Char.isAlpha := by
    cases language <;> decide +kernel
  exact (Option.any_eq_true _ _).1 (each word h)

/-- An escaped word does not end with a letter. -/
theorem exists_getLast?_escapeKeyword (language : TargetLanguage) (word : String) :
    ∃ c, (escapeKeyword language word).toList.getLast? = some c ∧ c.isAlpha = false ∧ c ≠ '\n' := by
  cases language with
  | kotlin => exact ⟨'\x60', by simp [escapeKeyword, List.getLast?_cons], by decide, by decide⟩
  | java => exact ⟨'_', by simp [escapeKeyword], by decide, by decide⟩
  | python => exact ⟨'_', by simp [escapeKeyword], by decide, by decide⟩

theorem Escapes.notMem (h : Escapes language word name) : name ∉ language.keywords := by
  intro mem
  obtain ⟨c, last, letter⟩ := exists_getLast?_of_mem_keywords mem
  obtain ⟨d, last', other, -⟩ := exists_getLast?_escapeKeyword language word
  rw [h.2, last'] at last
  rw [Option.some.inj last, letter] at other
  cases other

theorem withoutLineFeed_escapeKeyword (language : TargetLanguage) (word : String) :
    Text.withoutLineFeed (escapeKeyword language word) = escapeKeyword language word := by
  obtain ⟨c, last, -, plain⟩ := exists_getLast?_escapeKeyword language word
  exact Text.withoutLineFeed_of_getLast? last plain

theorem withoutLineFeed_of_mem_keywords (h : word ∈ language.keywords) :
    Text.withoutLineFeed word = word := by
  obtain ⟨c, last, letter⟩ := exists_getLast?_of_mem_keywords h
  refine Text.withoutLineFeed_of_getLast? last ?_
  rintro rfl
  exact absurd letter (by decide)

theorem escapeKeyword_inj (h : escapeKeyword language name = escapeKeyword language other) :
    name = other := by
  cases language <;> simpa [escapeKeyword, String.append_left_inj, String.append_right_inj] using h

/-- Two properties have one identifier if one of them is called like the other, escaped. -/
theorem identifierOf_eq_iff (ne : name ≠ other) :
    identifierOf language name = identifierOf language other ↔
      Escapes language name other ∨ Escapes language other name := by
  by_cases first : name ∈ language.keywords <;> by_cases second : other ∈ language.keywords
  · rw [identifierOf_of_mem first, identifierOf_of_mem second]
    exact iff_of_false (fun eq => ne (escapeKeyword_inj eq))
      (not_or.2 ⟨fun escapes => escapes.notMem second, fun escapes => escapes.notMem first⟩)
  · rw [identifierOf_of_mem first, identifierOf_of_notMem second]
    simp [Escapes, first, second, eq_comm]
  · rw [identifierOf_of_notMem first, identifierOf_of_mem second]
    simp [Escapes, first, second]
  · rw [identifierOf_of_notMem first, identifierOf_of_notMem second]
    simp [Escapes, first, second, ne]

def NoneAlike (alike : String → String → Prop) (properties : List Property) : Prop :=
  ∀ first ∈ properties, ∀ second ∈ properties, first.name ≠ second.name →
    ¬alike first.name second.name

instance (alike : String → String → Prop) [DecidableRel alike] (properties : List Property) :
    Decidable (NoneAlike alike properties) :=
  inferInstanceAs (Decidable (∀ first ∈ properties, ∀ second ∈ properties,
    first.name ≠ second.name → ¬alike first.name second.name))

theorem noneAlike_or_swap_iff {alike : String → String → Prop} :
    NoneAlike (fun name other => alike name other ∨ alike other name) properties ↔
      NoneAlike alike properties :=
  ⟨fun none first mem second mem' ne alike => none first mem second mem' ne (.inl alike),
    fun none first mem second mem' ne alike => alike.elim (none first mem second mem' ne)
      (none second mem' first mem ne.symm)⟩

/-- Texts made from the names of properties are distinct when no two names are alike that give the
same text. -/
theorem nodup_map_name_iff {alike : String → String → Prop} (text : String → String)
    (distinct : DistinctNames properties)
    (same : ∀ first ∈ properties, ∀ second ∈ properties, first.name ≠ second.name →
      (text first.name = text second.name ↔ alike first.name second.name)) :
    (properties.map fun property => text property.name).Nodup ↔ NoneAlike alike properties := by
  rw [List.nodup_map_iff_inj_on distinct.of_map]
  refine forall₂_congr fun first mem => forall₂_congr fun second mem' => ?_
  have eq : first = second ↔ first.name = second.name :=
    ⟨congrArg _, fun eq => List.inj_on_of_nodup_map distinct mem mem' eq⟩
  by_cases ne : first.name = second.name
  · simp [ne, eq]
  · simp [ne, eq, same first mem second mem' ne]

end

def Context.fieldNames (context : Context) (id : ClassId) : List String :=
  (context.splitFields id).2.map fun property => identifierOf context.language property.name

/-! ## Java -/

namespace Java

/-- The first sections of a class declare its fields and, after the constructor, their getters. -/
def DeclaresMembers (sections : List Section) (fields : List String) : Prop :=
  ∃ lines constructor getters others,
    sections = (if fields.isEmpty then [] else [Text.indent lines]) ++ constructor ++ getters ++
      others ∧
    List.Forall₂ (fun field line => ∃ type, line = "private final " ++ type ++ " " ++ field ++ ";")
      fields lines ∧
    List.Forall₂ (fun field part => ∃ type, part = Text.indent
      ["public " ++ type ++ " " ++ getterName field ++ "() \x7b",
        indented 1 ("return " ++ field ++ ";"), "\x7d"]) fields getters

/-- Names of properties that get the same field: one is a reserved word and the other that word with
an underscore, or neither is, and they differ in a line feed at the end. -/
def AlikeFields (name other : String) : Prop :=
  Escapes .java name (Text.withoutLineFeed other) ∨
    (name ∉ TargetLanguage.java.keywords ∧ other ∉ TargetLanguage.java.keywords ∧
      Text.withoutLineFeed name = Text.withoutLineFeed other)

instance : DecidableRel AlikeFields := fun _ _ => inferInstanceAs (Decidable (_ ∨ _))

def SameButCapital (text other : String) : Prop :=
  text.toList.head?.map Char.toUpper = other.toList.head?.map Char.toUpper ∧
    text.toList.tail = other.toList.tail

/-- Names of properties that get the same getter: their fields differ at most in whether they begin
with a capital. -/
def AlikeGetters (name other : String) : Prop :=
  SameButCapital (Text.withoutLineFeed (identifierOf .java name))
    (Text.withoutLineFeed (identifierOf .java other))

instance : DecidableRel AlikeGetters := fun _ _ => inferInstanceAs (Decidable (_ ∧ _))

section

variable {context : Context} {id : ClassId} {declaration : Declaration} {name other : String}

/-- A class in Java always extends its base, and so it declares its own properties. -/
theorem splitFields_snd (java : context.language = .java) (id : ClassId) :
    (context.splitFields id).2 = (context.graph.get id).properties := by
  have extends' : context.canExtend id = fun _ => true := by
    funext base
    simp [Context.canExtend, java]
  have extended : context.superclass? id = (context.graph.get id).base := by
    rw [Context.superclass?, extends']
    cases (context.graph.get id).base <;> rfl
  unfold Context.splitFields
  rw [extended]
  cases base : (context.graph.get id).base with
  | some above => rfl
  | none =>
    unfold ClassGraph.allProperties ClassGraph.lineage
    cases size : context.graph.size with
    | zero =>
      rw [ClassGraph.get_of_size_le (Nat.le_trans (Nat.le_of_eq size) (Nat.zero_le id))]
      rfl
    | succ fuel => simp [ClassGraph.chainFrom, base]

/-- Fields are alike as their names are: a reserved word gets an underscore. -/
theorem withoutLineFeed_identifierOf_eq_iff (ne : name ≠ other) :
    Text.withoutLineFeed (identifierOf .java name) =
      Text.withoutLineFeed (identifierOf .java other) ↔
        AlikeFields name other ∨ AlikeFields other name := by
  unfold AlikeFields
  by_cases first : name ∈ TargetLanguage.java.keywords <;>
    by_cases second : other ∈ TargetLanguage.java.keywords
  · rw [identifierOf_of_mem first, identifierOf_of_mem second, withoutLineFeed_escapeKeyword,
      withoutLineFeed_escapeKeyword, withoutLineFeed_of_mem_keywords first,
      withoutLineFeed_of_mem_keywords second]
    refine iff_of_false (fun eq => ne (escapeKeyword_inj eq)) ?_
    rintro ((escapes | ⟨free, -⟩) | escapes | ⟨free, -⟩)
    · exact escapes.notMem second
    · exact free first
    · exact escapes.notMem first
    · exact free second
  · rw [identifierOf_of_mem first, identifierOf_of_notMem second, withoutLineFeed_escapeKeyword]
    simp [Escapes, first, second, eq_comm]
  · rw [identifierOf_of_notMem first, identifierOf_of_mem second, withoutLineFeed_escapeKeyword]
    simp [Escapes, first, second]
  · rw [identifierOf_of_notMem first, identifierOf_of_notMem second]
    simp [Escapes, first, second, eq_comm]

/-- An identifier begins with a letter or an underscore. -/
theorem exists_of_isIdentifier (valid : isIdentifier name) : ∃ first rest,
    name.toList = first :: rest ∧ beginsIdentifier first := by
  unfold isIdentifier at valid
  cases chars : Text.dropFinalNewline name.toList with
  | nil =>
    rw [chars] at valid
    cases valid
  | cons first rest =>
    rw [chars] at valid
    obtain ⟨more, begins⟩ := Text.exists_of_dropFinalNewline chars
    exact ⟨first, more, begins, (Bool.and_eq_true_iff.1 valid).1⟩

theorem exists_identifierOf (valid : isIdentifier name) : ∃ first rest,
    (identifierOf .java name).toList = first :: rest ∧ beginsIdentifier first := by
  obtain ⟨first, rest, chars, begins⟩ := exists_of_isIdentifier valid
  unfold identifierOf
  split
  · exact ⟨first, rest ++ ['_'], by simp [escapeKeyword, chars], begins⟩
  · exact ⟨first, rest, chars, begins⟩

/-- Getters are alike if their names differ in the case of the first letter at most. -/
theorem withoutLineFeed_getterName_eq_iff (valid : isIdentifier name)
    (valid' : isIdentifier other) :
    Text.withoutLineFeed (getterName (identifierOf .java name)) =
      Text.withoutLineFeed (getterName (identifierOf .java other)) ↔ AlikeGetters name other := by
  obtain ⟨first, rest, chars, begins⟩ := exists_identifierOf valid
  obtain ⟨first', rest', chars', begins'⟩ := exists_identifierOf valid'
  have plain {c : Char} (begins : beginsIdentifier c) : c ≠ '\n' :=
    ne_lineFeed_of_continuesIdentifier (continuesIdentifier_of_begins begins)
  have capital {c : Char} (begins : beginsIdentifier c) : c.toUpper ≠ '\n' :=
    ne_lineFeed_of_continuesIdentifier
      (continuesIdentifier_toUpper (continuesIdentifier_of_begins begins))
  unfold AlikeGetters SameButCapital getterName Text.withoutLineFeed
  simp only [chars, chars', String.toList_append, String.toList_ofList]
  simp [Text.dropFinalNewline_cons, plain begins, plain begins', capital begins, capital begins',
    String.ofList_inj]

theorem exists_fieldLine {property : Property} {line : String}
    (h : (fieldLine context property).Gives line) : isIdentifier property.name ∧ ∃ type,
      line = "private final " ++ type ++ " " ++ identifierOf .java property.name ++ ";" := by
  obtain ⟨type, -, h⟩ := h.of_bind
  obtain ⟨name, named, h⟩ := h.of_bind
  obtain ⟨valid, rfl⟩ := fieldName_eq_ok_iff.1 named.of_ofExcept
  exact ⟨valid, type, h.of_pure.symm⟩

/-- A getter is a method that returns the field of its property. -/
theorem exists_getterLines {property : Property} {part : Section}
    (h : (getterSection context property).Gives part) : ∃ type, part = Text.indent
      ["public " ++ type ++ " " ++ getterName (identifierOf .java property.name) ++ "() \x7b",
        indented 1 ("return " ++ identifierOf .java property.name ++ ";"), "\x7d"] := by
  obtain ⟨name, named, h⟩ := h.of_bind
  obtain ⟨type, -, h⟩ := h.of_bind
  obtain ⟨-, rfl⟩ := fieldName_eq_ok_iff.1 named.of_ofExcept
  exact ⟨type, h.of_pure.symm⟩

/-- A class declares the fields of its properties and their getters. -/
theorem declaresMembers_of_declares (java : context.language = .java)
    (declares : context.Declares id declaration) :
    DeclaresMembers declaration.sections (context.fieldNames id) ∧
      ∀ property ∈ (context.graph.get id).properties, isIdentifier property.name := by
  unfold Context.Declares Context.declaration at declares
  rw [show (context.place id).language = .java from java] at declares
  obtain ⟨parts, declare⟩ := exists_parts declares
  have fields := declare.fields.of_mapM
  have getters := declare.getters.of_mapM
  rw [show (context.place id).splitFields id = context.splitFields id from rfl] at fields getters
  refine ⟨⟨parts.fields, parts.constructor, parts.getters,
    parts.equality ++ parts.enums ++ parts.inner, ?_, ?_, ?_⟩, fun property mem => ?_⟩
  · rw [declare.sections, Context.fieldNames, List.isEmpty_map]
    simp only [List.append_assoc]
    rfl
  · unfold Context.fieldNames
    rw [List.forall₂_map_left_iff, java]
    exact fields.imp fun property line given => (exists_fieldLine given).2
  · unfold Context.fieldNames
    rw [List.forall₂_map_left_iff, java]
    exact getters.imp fun property part given => exists_getterLines given
  · rw [← splitFields_snd java] at mem
    obtain ⟨line, -, given⟩ := exists_of_forall₂ fields mem
    exact (exists_fieldLine given).1

/-- The fields that a class declares in Java have distinct names, as they are read, when the names
of no two properties give the same field, and so with the getters. -/
theorem membersDistinct_iff (java : context.language = .java)
    (distinct : DistinctNames (context.graph.get id).properties)
    (declares : context.Declares id declaration) :
    DeclaresMembers declaration.sections (context.fieldNames id) ∧
      (((context.fieldNames id).map Text.withoutLineFeed).Nodup ↔
        NoneAlike AlikeFields (context.graph.get id).properties) ∧
      (((context.fieldNames id).map fun field => Text.withoutLineFeed (getterName field)).Nodup ↔
        NoneAlike AlikeGetters (context.graph.get id).properties) := by
  obtain ⟨members, valid⟩ := declaresMembers_of_declares java declares
  refine ⟨members, ?_⟩
  unfold Context.fieldNames
  rw [splitFields_snd java, java, List.map_map, List.map_map, ← noneAlike_or_swap_iff]
  refine ⟨nodup_map_name_iff (fun name => Text.withoutLineFeed (identifierOf .java name)) distinct
      fun first mem second mem' ne => ?_,
    nodup_map_name_iff (fun name => Text.withoutLineFeed (getterName (identifierOf .java name)))
      distinct fun first mem second mem' ne => ?_⟩
  · exact withoutLineFeed_identifierOf_eq_iff ne
  · exact withoutLineFeed_getterName_eq_iff (valid first mem) (valid second mem')

def record (names : List String) : Value :=
  .object [("properties",
    .object (names.map fun name => (name, .object [("type", .string "string")])))]

theorem membersDistinct_iff_record : ∃ id s,
    buildRoot ⟨.ofValue (record ["class", "Class"]), .string ""⟩
      (.ofValue (record ["class", "Class"])) (some "Seat") {} = .ok id s ∧
    ∃ (context : Context) (declaration : Declaration), context.graph = s.graph ∧
      context.language = .java ∧ DistinctNames (context.graph.get 0).properties ∧
      context.Declares 0 declaration ∧ context.fieldNames 0 = ["class_", "Class"] ∧
      ((context.fieldNames 0).map Text.withoutLineFeed).Nodup ∧
      ((context.fieldNames 0).map fun field => Text.withoutLineFeed (getterName field)).Nodup := by
  let context (graph : ClassGraph) : Context := { graph, settings := {}, language := .java }
  have built : ((buildRoot ⟨.ofValue (record ["class", "Class"]), .string ""⟩
      (.ofValue (record ["class", "Class"])) (some "Seat") >>= fun _ => get).run' {}).any fun s =>
        (s.graph.get 0).properties.map (·.name) = ["class", "Class"] ∧
        (context s.graph).fieldNames 0 = ["class_", "Class"] ∧
        (context s.graph).writesText 0 ∧ NoneAlike AlikeFields (s.graph.get 0).properties ∧
        NoneAlike AlikeGetters (s.graph.get 0).properties := by
    decide +kernel
  obtain ⟨id, s, run, test⟩ := Build.exists_of_any built
  obtain ⟨names, fields, written, noFields, noGetters⟩ := of_decide_eq_true test
  have sound := ((Run.root run).invariant (by decide) rfl).sound
  obtain ⟨declaration, declares⟩ := Context.declares_of_writesText sound rfl written
  have distinct : DistinctNames (s.graph.get 0).properties := by
    rw [DistinctNames, names]
    decide
  obtain ⟨-, fieldsDistinct, gettersDistinct⟩ :=
    membersDistinct_iff (rfl : (context s.graph).language = .java) distinct declares
  exact ⟨id, s, run, context s.graph, declaration, rfl, rfl, distinct, declares, fields,
    fieldsDistinct.2 noFields, gettersDistinct.2 noGetters⟩

/-- Two fields may have one name, and two getters, though the names of the properties are
distinct. -/
theorem record_not_membersDistinct : ∃ id s,
    buildRoot ⟨.ofValue (record ["a", "A", "class", "class_"]), .string ""⟩
      (.ofValue (record ["a", "A", "class", "class_"])) (some "Point") {} = .ok id s ∧
    ∃ (context : Context) (declaration : Declaration), context.graph = s.graph ∧
      context.language = .java ∧ DistinctNames (context.graph.get 0).properties ∧
      context.Declares 0 declaration ∧
      context.fieldNames 0 = ["a", "A", "class_", "class_"] ∧
      DeclaresMembers declaration.sections (context.fieldNames 0) ∧
      ¬((context.fieldNames 0).map Text.withoutLineFeed).Nodup ∧
      ¬((context.fieldNames 0).map fun field => Text.withoutLineFeed (getterName field)).Nodup := by
  let context (graph : ClassGraph) : Context := { graph, settings := {}, language := .java }
  have built : ((buildRoot ⟨.ofValue (record ["a", "A", "class", "class_"]), .string ""⟩
      (.ofValue (record ["a", "A", "class", "class_"])) (some "Point") >>=
      fun _ => get).run' {}).any fun s =>
        (s.graph.get 0).properties.map (·.name) = ["a", "A", "class", "class_"] ∧
        (context s.graph).fieldNames 0 = ["a", "A", "class_", "class_"] ∧
        (context s.graph).writesText 0 := by
    decide +kernel
  obtain ⟨id, s, run, test⟩ := Build.exists_of_any built
  obtain ⟨names, fields, written⟩ := of_decide_eq_true test
  have sound := ((Run.root run).invariant (by decide) rfl).sound
  obtain ⟨declaration, declares⟩ := Context.declares_of_writesText sound rfl written
  have distinct : DistinctNames (s.graph.get 0).properties := by
    rw [DistinctNames, names]
    decide
  refine ⟨id, s, run, context s.graph, declaration, rfl, rfl, distinct, declares, fields,
    (declaresMembers_of_declares (rfl : (context s.graph).language = .java) declares).1, ?_, ?_⟩
  · rw [fields]
    decide
  · rw [fields]
    decide

end

end Java

/-! ## Python -/

namespace Python

/-- The names that are bound in the body of a class: its fields, its enums, the classes in its body
and the hoisted classes that are attached to it. -/
def boundNames (context : Context) (id : ClassId) : List String :=
  let model := context.graph.get id
  let (hoisted, inner) := model.nested.partition (isHoisted context)
  context.fieldNames id ++ model.enums.map (·.name) ++
    inner.map (fun nested => (context.graph.get nested).name) ++
    hoisted.map fun nested => (context.graph.get nested).name

def AreClasses (context : Context) (parts : List Section) (ids : List ClassId) : Prop :=
  List.Forall₂ (fun part id => ∃ declaration, part = Text.indent (Text.lines (text declaration)) ∧
    declaration.head.getLast? = some (classLine context id)) parts ids

/-- Sections declare fields under some names, the enums of a class, and the classes nested in it
that are not hoisted. -/
def Binds (context : Context) (id : ClassId) (sections : List Section) (fields : List String) :
    Prop :=
  ∃ enums inner lines others,
    sections = enums ++ inner ++ (if lines.isEmpty then [] else [Text.indent lines]) ++ others ∧
    AreEnums enums (context.graph.get id).enums ∧
    AreClasses context inner ((context.graph.get id).nested.filter (!isHoisted context ·)) ∧
    List.Forall₂ (fun field line => ∃ rest, line = field ++ (": " ++ rest)) fields lines

section

variable {context : Context} {id : ClassId} {declaration : Declaration} {trees : List ClassTree}
  {parts : List Section}

/-- The sections of nested classes declare those that do not stand apart. -/
theorem areClasses_of_gives (python : context.language = .python)
    (h : (context.nestedSections trees).Gives parts) :
    AreClasses context parts ((trees.map ClassTree.id).filter (!isHoisted context ·)) := by
  have writes := writesAll_of_gives python h
  clear h
  induction trees generalizing parts with
  | nil =>
    rw [Context.outlines] at writes
    cases writes
    exact .nil
  | cons tree rest ih =>
    have apart : context.standsApart tree.id = isHoisted context tree.id := by
      simp [Context.standsApart, python]
    rw [Context.outlines, apart] at writes
    rw [List.map_cons, List.filter_cons]
    cases hoisted : isHoisted context tree.id with
    | true =>
      rw [hoisted, if_pos rfl] at writes
      exact ih writes
    | false =>
      rw [hoisted, if_neg (by decide)] at writes
      cases tree with
      | node id nested =>
        rw [Context.outline] at writes
        cases writes with
        | cons first others =>
          cases first with
          | node declares _ => exact .cons ⟨_, rfl, declares.head⟩ (ih others)

/-- After the enums, the classes and the fields come other sections. -/
theorem Parts.Declare.exists_others {parts : Parts} {nested : Emit (List Section)}
    (h : parts.Declare context id nested declaration) : ∃ others, declaration.sections =
      parts.enums ++ parts.inner ++
        (if parts.fields.isEmpty then [] else [Text.indent parts.fields]) ++ others := by
  rw [h.sections]
  split
  · rename_i empty
    simp only [Parts.sections, List.isEmpty_iff, List.append_eq_nil_iff] at empty
    obtain ⟨⟨⟨⟨enums, inner⟩, fields⟩, -⟩, -⟩ := empty
    exact ⟨[Text.indent ["pass"]], by simp [enums, inner, fields]⟩
  · exact ⟨parts.checks ++ parts.hash, by simp only [Parts.sections, List.append_assoc]⟩

/-- The body of a class binds its fields, its enums and the classes in it. -/
theorem binds_of_declares {source : Source} {s : BuildState} (sound : s.Sound source)
    (graph : context.graph = s.graph) (python : context.language = .python)
    (declares : context.Declares id declaration) :
    Binds context id declaration.sections (context.fieldNames id) := by
  unfold Context.Declares Context.declaration at declares
  rw [show (context.place id).language = .python from python] at declares
  obtain ⟨parts, declare⟩ := exists_parts declares
  obtain ⟨others, sections⟩ := declare.exists_others
  refine ⟨parts.enums, parts.inner, parts.fields, others, sections, areEnums_of_gives declare.enums,
    ?_, ?_⟩
  · have classes := areClasses_of_gives
      (show (context.inFile id).language = .python from python) declare.inner
    have ids : ((context.graph.get id).nested.map context.graph.tree).map ClassTree.id =
        (context.graph.get id).nested := by
      rw [graph, List.map_map]
      refine List.map_id'' (fun inner => ?_) _
      rw [Function.comp_apply, sound.nesting.tree_eq, ClassTree.id]
    rw [ids] at classes
    exact classes
  · unfold Context.fieldNames
    rw [List.forall₂_map_left_iff, python]
    refine declare.fields.of_mapM.imp fun property line given => ?_
    obtain ⟨name, rest, named, eq⟩ := exists_fieldLine given
    obtain ⟨-, rfl⟩ := fieldName_eq_ok_iff.1 named
    exact ⟨rest, eq⟩

/-- The module of a file attaches the hoisted classes of a class to it. -/
theorem IsModuleText.attaches {top inner : ClassId} {order : List ClassId} {body : String}
    (h : IsModuleText context top order body) (mem : inner ∈ order) : ∃ blocks,
      body = "\n\n".intercalate blocks ∧ attachment context.graph inner ∈ blocks := by
  cases h with
  | @intro helper first texts _ _ hoisted =>
    refine ⟨_, rfl, List.mem_append_right _ (List.mem_cons_of_mem _ ?_)⟩
    clear * - hoisted mem
    induction hoisted with
    | nil => cases mem
    | cons _ _ ih =>
      rw [List.zipWith_cons_cons, List.flatten_cons, List.mem_append]
      rcases List.mem_cons.1 mem with rfl | mem
      · exact .inl (by simp)
      · exact .inr (ih mem)

/-- The names in the body of a class are those of its fields and those declared in it, in some
order. -/
theorem boundNames_perm (context : Context) (id : ClassId) : (boundNames context id).Perm
    (context.fieldNames id ++ context.graph.declaredNames id) := by
  have split : (boundNames context id) = context.fieldNames id ++
      ((context.graph.get id).enums.map (·.name) ++
        (((context.graph.get id).nested.filter fun inner => !isHoisted context inner) ++
          (context.graph.get id).nested.filter (isHoisted context)).map
            fun inner => (context.graph.get inner).name) := by
    simp [boundNames, List.partition_eq_filter_filter, Function.comp_def]
  have nested := List.filter_append_perm (isHoisted context) (context.graph.get id).nested
  rw [split]
  refine .append_left _ (List.perm_append_comm.trans (.append_right _ (.map _ ?_)))
  exact List.perm_append_comm.trans nested

end

end Python

section

variable {document package : Value} {registered : List Definition}
  {returned : List (Definition × ClassId)} {succeeded : Bool} {s : BuildState} {context : Context}
  {id : ClassId} {declaration : Declaration}

/-- The names in the body of a class in Python are distinct unless a property is called like a
reserved word with an underscore and another one like that word, or a field has the name of an enum
or a class that is declared in the class. -/
theorem Run.boundNames_nodup_iff (distinct : document.distinctKeys)
    (run : Run ⟨.ofValue document, package⟩ registered returned succeeded s)
    (graph : context.graph = s.graph) (python : context.language = .python)
    (inside : id < s.graph.size) (declares : context.Declares id declaration) :
    Python.Binds context id declaration.sections (context.fieldNames id) ∧
      (∀ inner ∈ (context.graph.get id).nested, Python.isHoisted context inner → ∀ body,
        (context.fileBody (context.graph.topLevel id)).Gives body → ∃ blocks,
          body = "\n\n".intercalate blocks ∧
            Python.attachment context.graph inner ∈ blocks) ∧
      ((Python.boundNames context id).Nodup ↔
        NoneAlike (Escapes .python) (context.splitFields id).2 ∧
          ∀ field ∈ context.fieldNames id, field ∉ context.graph.declaredNames id) := by
  have invariant := run.invariant distinct rfl
  have sound := invariant.sound
  refine ⟨Python.binds_of_declares sound graph python declares,
    fun inner nested hoisted body given => ?_, ?_⟩
  · obtain ⟨order, -, isOrder, -, -, isText⟩ := run.declaresOnce distinct graph python
      (graph ▸ sound.nesting.topLevel_mem inside)
    rw [graph] at nested
    have around := sound.nesting.enclosing_of_mem_nested nested
    refine (isText body given).attaches ((isOrder.mem_iff inner).2 ⟨?_, ?_, hoisted⟩)
    · rw [graph]
      exact BuildState.Nesting.lt_size_of_enclosing around
    · rw [graph, ClassGraph.topLevel_eq sound.nesting.founded, around, Option.elim_some]
  · have names : DistinctNames (context.splitFields id).2 := by
      have all := sound.composition.distinct inside
      rw [← graph, ← Context.splitFields_append (graph ▸ sound.composition.founded)
        (graph ▸ inside)] at all
      exact all.sublist ((List.sublist_append_right _ _).map _)
    have declared : (context.graph.declaredNames id).Nodup :=
      graph ▸ (run.distinctlyNamed distinct).declared id
    have fields : (context.fieldNames id).Nodup ↔
        NoneAlike (Escapes .python) (context.splitFields id).2 := by
      rw [← noneAlike_or_swap_iff, Context.fieldNames, python]
      exact nodup_map_name_iff (identifierOf .python) names fun _ _ _ _ ne => identifierOf_eq_iff ne
    rw [(Python.boundNames_perm context id).nodup_iff, List.nodup_append', fields]
    exact and_congr_right fun _ => and_iff_right declared

def car (name : String) : Value :=
  .object [("properties", .object [(name, .object [("enum", .array [.string "red"])])])]

theorem Run.boundNames_nodup_iff_car : ∃ id s,
    buildRoot ⟨.ofValue (car "color"), .string ""⟩ (.ofValue (car "color")) (some "Car") {} =
      .ok id s ∧
    ∃ (context : Context) (declaration : Declaration), context.graph = s.graph ∧
      context.language = .python ∧ 0 < s.graph.size ∧ context.Declares 0 declaration ∧
      Python.Binds context 0 declaration.sections (context.fieldNames 0) ∧
      Python.boundNames context 0 = ["color", "Color"] ∧ (Python.boundNames context 0).Nodup := by
  let context (graph : ClassGraph) : Context := { graph, settings := {}, language := .python }
  have built : ((buildRoot ⟨.ofValue (car "color"), .string ""⟩ (.ofValue (car "color"))
      (some "Car") >>= fun _ => get).run' {}).any fun s =>
        0 < s.graph.size ∧ (context s.graph).writesText 0 ∧
        Python.boundNames (context s.graph) 0 = ["color", "Color"] ∧
        NoneAlike (Escapes .python) ((context s.graph).splitFields 0).2 ∧
        ∀ field ∈ (context s.graph).fieldNames 0, field ∉ s.graph.declaredNames 0 := by
    decide +kernel
  obtain ⟨id, s, run, test⟩ := Build.exists_of_any built
  obtain ⟨inside, written, names, noneAlike, apart⟩ := of_decide_eq_true test
  have distinct : (car "color").distinctKeys := by decide
  have sound := ((Run.root run).invariant distinct rfl).sound
  obtain ⟨declaration, declares⟩ := Context.declares_of_writesText sound rfl written
  obtain ⟨binds, -, nodup⟩ := Run.boundNames_nodup_iff distinct (.root run)
    (rfl : (context s.graph).graph = s.graph) rfl inside declares
  exact ⟨id, s, run, context s.graph, declaration, rfl, rfl, inside, declares, binds, names,
    nodup.2 ⟨noneAlike, apart⟩⟩

/-- In Python, a field takes the place of the enum that is its type. -/
theorem car_boundNames_not_nodup : ∃ id s,
    buildRoot ⟨.ofValue (car "Color"), .string ""⟩ (.ofValue (car "Color")) (some "Car") {} =
      .ok id s ∧
    ∃ (context : Context) (declaration : Declaration), context.graph = s.graph ∧
      context.language = .python ∧ 0 < s.graph.size ∧ context.Declares 0 declaration ∧
      Python.Binds context 0 declaration.sections (context.fieldNames 0) ∧
      Python.boundNames context 0 = ["Color", "Color"] ∧
      ¬(Python.boundNames context 0).Nodup := by
  let context (graph : ClassGraph) : Context := { graph, settings := {}, language := .python }
  have built : ((buildRoot ⟨.ofValue (car "Color"), .string ""⟩ (.ofValue (car "Color"))
      (some "Car") >>= fun _ => get).run' {}).any fun s =>
        0 < s.graph.size ∧ (context s.graph).writesText 0 ∧
        Python.boundNames (context s.graph) 0 = ["Color", "Color"] := by
    decide +kernel
  obtain ⟨id, s, run, test⟩ := Build.exists_of_any built
  obtain ⟨inside, written, names⟩ := of_decide_eq_true test
  have sound := ((Run.root run).invariant (by decide : (car "Color").distinctKeys) rfl).sound
  obtain ⟨declaration, declares⟩ := Context.declares_of_writesText sound rfl written
  refine ⟨id, s, run, context s.graph, declaration, rfl, rfl, inside, declares,
    Python.binds_of_declares sound (rfl : (context s.graph).graph = s.graph) rfl declares, names,
    ?_⟩
  rw [names]
  decide

end

end SchemaClasses
