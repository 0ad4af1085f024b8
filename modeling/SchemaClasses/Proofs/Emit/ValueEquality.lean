import SchemaClasses.Proofs.Build.Extensions
import SchemaClasses.Proofs.Emit.Comparison
import SchemaClasses.Proofs.Emit.Inheritance
import SchemaClasses.Proofs.Emit.Parts

/-!
# Classes that are compared by value

The kind of a class decides whether it is written with a comparison by value, and whether it extends
a class decides whether that comparison asks the superclass. In Kotlin only open bases are extended,
which are compared by value; in Java a class without properties may be extended, too, and is not.

## Main definitions

* `Overrides`, `AsksSuper`: what the sections of a class say about comparison.
* `Context.Declares`: the declaration of a class with everything nested in it.
* `writesEquality`: whether a class of a kind is written with a comparison of its own.

## Main statements

* `Context.Declares.compares`: which classes have a comparison, and which ask the superclass in it.
* `Run.overrides_of_asksSuper_iff`: when a superclass that is asked has a comparison of its own.
-/

namespace SchemaClasses

def Overrides (language : TargetLanguage) (name : String) (parts : List Section) : Prop :=
  (∃ part ∈ parts, OverridesEquals language name part) ∧ ∃ part ∈ parts, OverridesHash language part

def AsksSuper (language : TargetLanguage) (name : String) (parts : List Section) : Prop :=
  (∃ part ∈ parts, OverridesEquals language name part ∧
    ∃ line, AsksEquals language name line ∧ indented 1 line ∈ part) ∨
  ∃ part ∈ parts, OverridesHash language part ∧ ∃ line, AsksHash language line ∧
    indented 1 line ∈ part

def Context.Declares (context : Context) (id : ClassId) (declaration : Declaration) : Prop :=
  ((context.place id).declaration id ((context.inFile id).nestedSections
    ((context.graph.get id).nested.map context.graph.tree))).Gives declaration

def writesEquality (language : TargetLanguage) (kind : ClassKind) : Bool :=
  match language with
  | .kotlin => Kotlin.writesEquality kind
  | .java => Java.writesEquality kind
  | .python => false

/-! ## Sections that override a method -/

def overrideWord : TargetLanguage → String
  | .kotlin => "override "
  | _ => "@Override"

def BeginsOverride (language : TargetLanguage) (part : Section) : Prop :=
  ∃ line, part.head? = some (indented 1 line) ∧ (overrideWord language).toList <+: line.toList

section

variable {language : TargetLanguage} {name : String} {part equals hash : Section}
  {parts before after : List Section}

theorem begins_append {start text : String} (h : start.toList <+: text.toList)
    (rest : String) : start.toList <+: (text ++ rest).toList := by
  rw [String.toList_append]
  exact h.trans (List.prefix_append _ _)

theorem OverridesEquals.beginsOverride (h : OverridesEquals language name part) :
    BeginsOverride language part := by
  cases language with
  | kotlin =>
    obtain ⟨more, rest, rfl⟩ := h
    refine ⟨_, rfl, begins_append (begins_append ?_ name) more⟩
    decide
  | java =>
    obtain ⟨rest, rfl⟩ := h
    exact ⟨_, rfl, List.prefix_rfl⟩
  | python => exact h.elim

theorem OverridesHash.beginsOverride (h : OverridesHash language part) :
    BeginsOverride language part := by
  cases language with
  | kotlin =>
    obtain ⟨more, rest, rfl⟩ := h
    refine ⟨_, rfl, begins_append ?_ more⟩
    decide
  | java =>
    obtain ⟨rest, rfl⟩ := h
    exact ⟨_, rfl, List.prefix_rfl⟩
  | python => exact h.elim

/-- No section overrides both methods. -/
theorem OverridesEquals.not_overridesHash (h : OverridesEquals language name part) :
    ¬OverridesHash language part := by
  cases language with
  | kotlin =>
    obtain ⟨more, rest, rfl⟩ := h
    rintro ⟨more', rest', eq⟩
    have eq := indented_inj.1 (List.cons.inj eq).1
    have left : "override fun e".toList <+: (Kotlin.equalsLine name ++ more).toList := by
      refine begins_append (begins_append ?_ name) more
      decide
    have right : "override fun h".toList <+: (Kotlin.hashLine ++ more').toList := by
      refine begins_append ?_ more'
      decide
    have same := List.prefix_of_prefix_length_le (eq ▸ left) right (by decide)
    exact absurd same (by decide)
  | java =>
    obtain ⟨rest, rfl⟩ := h
    rintro ⟨rest', eq⟩
    have eq := indented_inj.1 (List.cons.inj (List.cons.inj eq).2).1
    exact absurd eq (by decide)
  | python => exact h.elim

theorem not_beginsOverride {first : String} (h : ¬(overrideWord language).toList <+: first.toList)
    (rest : List String) : ¬BeginsOverride language (Text.indent (first :: rest)) := by
  rintro ⟨line, head, begins⟩
  have ne : first ≠ line := fun eq => h (eq ▸ begins)
  exact head?_indent_ne ne rest head

end

/-! ## Classes -/

/-- Some sections override the comparison and the hash code if a class is written with a comparison,
and ask the superclass in them if it extends one, too. -/
structure Compares (language : TargetLanguage) (name : String) (writes extendsBase : Bool)
    (parts : List Section) : Prop where
  overrides : Overrides language name parts ↔ writes
  asks : AsksSuper language name parts ↔ writes ∧ extendsBase

section

variable {language : TargetLanguage} {name : String} {part equals hash : Section}
  {parts before after : List Section} {writes extendsBase : Bool}

/-- Sections that override nothing. -/
theorem Compares.none (others : ∀ part ∈ parts, ¬BeginsOverride language part) :
    Compares language name false extendsBase parts := by
  have noEquals : ∀ part ∈ parts, ¬OverridesEquals language name part :=
    fun part mem h => others part mem h.beginsOverride
  have noHash : ∀ part ∈ parts, ¬OverridesHash language part :=
    fun part mem h => others part mem h.beginsOverride
  refine ⟨iff_of_false ?_ (by decide), iff_of_false ?_ (by simp)⟩
  · rintro ⟨⟨part, mem, h⟩, -⟩
    exact noEquals part mem h
  · rintro (⟨part, mem, h, -⟩ | ⟨part, mem, h, -⟩)
    · exact noEquals part mem h
    · exact noHash part mem h

/-- The two sections for comparison, among others that override nothing. -/
theorem Compares.pair (others : ∀ part ∈ before ++ after, ¬BeginsOverride language part)
    (isEquals : OverridesEquals language name equals ∧
      ((∃ line, AsksEquals language name line ∧ indented 1 line ∈ equals) ↔ extendsBase))
    (isHash : OverridesHash language hash ∧
      ((∃ line, AsksHash language line ∧ indented 1 line ∈ hash) ↔ extendsBase)) :
    Compares language name true extendsBase (before ++ [equals, hash] ++ after) := by
  have mem_iff (P : Section → Prop) (begins : ∀ part, P part → BeginsOverride language part) :
      (∃ part ∈ before ++ [equals, hash] ++ after, P part) ↔ P equals ∨ P hash := by
    constructor
    · rintro ⟨part, mem, h⟩
      have other := fun mem => others part mem (begins part h)
      grind
    · rintro (h | h)
      · exact ⟨equals, by simp, h⟩
      · exact ⟨hash, by simp, h⟩
  have notHash := isEquals.1.not_overridesHash
  have notEquals : ¬OverridesEquals language name hash := fun h => h.not_overridesHash isHash.1
  refine ⟨iff_of_true ⟨?_, ?_⟩ rfl, ?_⟩
  · exact (mem_iff _ fun _ h => h.beginsOverride).2 (.inl isEquals.1)
  · exact (mem_iff _ fun _ h => h.beginsOverride).2 (.inr isHash.1)
  · unfold AsksSuper
    rw [mem_iff _ fun _ h => h.1.beginsOverride, mem_iff _ fun _ h => h.1.beginsOverride]
    simp [isEquals, isHash, notHash, notEquals]

/-- The sections for comparison, if there are any, among others that override nothing. -/
theorem Compares.of_writesComparison {isEquals isHash : Emit Section}
    (h : WritesComparison writes isEquals isHash parts)
    (others : ∀ part ∈ before ++ after, ¬BeginsOverride language part)
    (equalsSpec : ∀ {part}, isEquals.Gives part → OverridesEquals language name part ∧
      ((∃ line, AsksEquals language name line ∧ indented 1 line ∈ part) ↔ extendsBase))
    (hashSpec : ∀ {part}, isHash.Gives part → OverridesHash language part ∧
      ((∃ line, AsksHash language line ∧ indented 1 line ∈ part) ↔ extendsBase)) :
    Compares language name writes extendsBase (before ++ parts ++ after) := by
  unfold WritesComparison at h
  split at h
  · rename_i isWritten
    obtain ⟨equals, hash, givesEquals, givesHash, rfl⟩ := h
    rw [isWritten]
    exact .pair others (equalsSpec givesEquals) (hashSpec givesHash)
  · rename_i notWritten
    rw [h, Bool.eq_false_iff.2 notWritten, List.append_nil]
    exact .none others

/-- Sections that override nothing may follow. -/
theorem Compares.append (h : Compares language name writes extendsBase parts)
    (others : ∀ part ∈ after, ¬BeginsOverride language part) :
    Compares language name writes extendsBase (parts ++ after) := by
  have mem_iff (P : Section → Prop) (begins : ∀ part, P part → BeginsOverride language part) :
      (∃ part ∈ parts ++ after, P part) ↔ ∃ part ∈ parts, P part := by
    simp only [List.mem_append, or_and_right, exists_or]
    exact or_iff_left fun ⟨part, mem, h⟩ => others part mem (begins part h)
  refine ⟨?_, ?_⟩
  · unfold Overrides
    rw [mem_iff _ fun _ h => h.beginsOverride, mem_iff _ fun _ h => h.beginsOverride]
    exact h.overrides
  · unfold AsksSuper
    rw [mem_iff _ fun _ h => h.1.beginsOverride, mem_iff _ fun _ h => h.1.beginsOverride]
    exact h.asks

end

/-! ## The first line of a text -/

namespace Text

/-- A text without line ends belongs to its first line as a whole. -/
theorem linesFrom_append {start : List Char} (noEnd : ∀ c ∈ start, ¬endsLine c)
    (current rest : List Char) :
    linesFrom current (start ++ rest) = linesFrom (start.reverse ++ current) rest := by
  induction start generalizing current with
  | nil => rfl
  | cons c start ih =>
    obtain ⟨inside, noEnd⟩ := List.forall_mem_cons.1 noEnd
    have noReturn : c ≠ '\r' := by
      rintro rfl
      exact inside (by decide)
    rw [List.cons_append, linesFrom, if_neg inside, ih noEnd]
    · simp
    · simp [noReturn]

/-- The characters of the unfinished line begin the first line. -/
theorem exists_linesFrom {current : List Char} (nonempty : current ≠ []) (rest : List Char) :
    ∃ more others, linesFrom current rest = (current.reverse ++ more) :: others := by
  fun_induction linesFrom current rest with
  | case1 current empty => exact absurd (by simpa using empty) nonempty
  | case2 current => exact ⟨[], [], by simp⟩
  | case3 current rest => exact ⟨[], _, by rw [List.append_nil]⟩
  | case4 current c rest => exact ⟨[], _, by rw [List.append_nil]⟩
  | case5 current c rest _ _ ih =>
    obtain ⟨more, others, eq⟩ := ih (by simp)
    exact ⟨c :: more, others, by simpa using eq⟩

/-- The first line of a text goes on from any start without line ends. -/
theorem exists_lines {start : String} (nonempty : start ≠ "")
    (noEnd : ∀ c ∈ start.toList, ¬endsLine c) (rest : String) :
    ∃ more others, lines (start ++ rest) = (start ++ more) :: others := by
  have nonempty : start.toList.reverse ++ [] ≠ [] := by simpa using nonempty
  obtain ⟨more, others, eq⟩ := exists_linesFrom nonempty rest.toList
  refine ⟨String.ofList more, others.map String.ofList, ?_⟩
  rw [lines, String.toList_append, linesFrom_append noEnd, eq]
  simp

end Text

/-! ## Declarations -/

def declarationWords : List String := ["public ", "data class ", "open class ", "class "]

/-- A declaration has the sections of the class itself, among them those for comparison, before the
sections `inner` of the classes declared in it. -/
structure Context.LaysOut (context : Context) (id : ClassId) (inner : List Section)
    (declaration : Declaration) : Prop where
  begins : ∃ start ∈ declarationWords, ∃ rest, declaration.text context.language = start ++ rest
  sections : ∃ own, declaration.sections = own ++ inner ∧
    Compares context.language (context.graph.get id).name
      (writesEquality context.language (context.graph.get id).kind)
      (context.superclass? id).isSome own

theorem textOfLines_cons (first : String) (rest : List String) :
    textOfLines (first :: rest) = first ++ ("\n" ++ textOfLines rest) := by
  simp [textOfLines, String.append_assoc]

section

variable {context : Context} {id : ClassId} {property : Property} {own : List Property}
  {nested : Emit (List Section)} {declaration : Declaration} {part : Section}

/-! ### Kotlin -/

/-- The initializer of a Kotlin class overrides nothing. -/
theorem Kotlin.begins_of_initSections {parts : List Section}
    (h : (Kotlin.initSections context own).Gives parts) :
    ∀ part ∈ parts, ¬BeginsOverride .kotlin part := by
  obtain ⟨lines, -, h⟩ := h.of_bind
  extract_lets all at h
  split at h
  · simp [← h.of_pure]
  · rw [← h.of_pure]
    exact List.forall_mem_singleton.2 (not_beginsOverride (by simp [overrideWord]) _)

theorem Kotlin.not_beginsOverride_enum {definition : EnumDef}
    (h : (Kotlin.enumSection definition).Gives part) : ¬BeginsOverride .kotlin part := by
  obtain ⟨rest, rfl⟩ := Kotlin.exists_enumSection h
  exact not_beginsOverride (by simp [overrideWord]) rest

/-- A class of Kotlin begins as its head does. -/
theorem Kotlin.exists_text {start supertype : String} {parameters : List String}
    (head : declaration.head = Kotlin.head start supertype parameters) :
    ∃ rest, Kotlin.text declaration = start ++ rest := by
  have first : ∃ more lines, Kotlin.text declaration = textOfLines ((start ++ more) :: lines) := by
    unfold Kotlin.text
    rw [head, Kotlin.head]
    by_cases empty : parameters.isEmpty
    · rw [if_pos empty]
      split
      · exact ⟨_, _, rfl⟩
      · exact ⟨supertype ++ " \x7b", spaced declaration.sections ++ ["", "\x7d"],
          by simp [String.append_assoc]⟩
    · rw [if_neg empty]
      split
      · exact ⟨_, _, rfl⟩
      · exact ⟨_, _, by rw [List.dropLast_concat]; rfl⟩
  obtain ⟨more, lines, eq⟩ := first
  exact ⟨_, by rw [eq, textOfLines_cons, String.append_assoc]⟩

/-- The sections of a Kotlin class: its own, with the comparison among them, and those of the
classes in it. -/
theorem Kotlin.laysOut_of_gives (kotlin : context.language = .kotlin)
    (h : (Kotlin.declaration context id nested).Gives declaration) :
    ∃ inner, nested.Gives inner ∧ context.LaysOut id inner declaration := by
  obtain ⟨parts, declares⟩ := Kotlin.exists_parts h
  obtain ⟨rest, text⟩ := exists_text declares.head
  have others : ∀ part ∈ parts.enums ++ parts.init ++ [], ¬BeginsOverride .kotlin part := by
    rw [List.append_nil]
    exact List.forall_mem_append.2 ⟨declares.enums.forall_of_mapM fun _ _ h =>
      not_beginsOverride_enum h, begins_of_initSections declares.init⟩
  refine ⟨parts.inner, declares.inner, ⟨classWords (context.graph.get id).kind ++ " ", ?_,
    (context.graph.get id).name ++ rest, ?_⟩, _, declares.sections, ?_⟩
  · cases (context.graph.get id).kind <;> decide
  · rw [kotlin, ← String.append_assoc]
    exact text
  · rw [kotlin, ← List.append_nil (parts.enums ++ parts.init ++ parts.equality)]
    exact .of_writesComparison declares.equality others equalsSection_spec hashSection_spec

/-! ### Java -/

theorem Java.not_beginsOverride_of_begins {line : String} {rest : List String}
    (begins : "p".toList <+: line.toList) : ¬BeginsOverride .java (Text.indent (line :: rest)) := by
  refine not_beginsOverride (fun word => ?_) rest
  have same := List.prefix_of_prefix_length_le begins word (by decide)
  exact absurd same (by decide)

theorem Java.not_beginsOverride_fields {lines : List String}
    (h : (own.mapM (Java.fieldLine context)).Gives lines) (nonempty : own ≠ []) :
    ¬BeginsOverride .java (Text.indent lines) := by
  obtain ⟨type, name, rest, rfl⟩ := Java.exists_fieldLines h nonempty
  exact not_beginsOverride_of_begins (by simp)

/-- A constructor overrides nothing. -/
theorem Java.begins_of_constructorSections {name : String} {extendsBase : Bool}
    {inherited : List Property} {parts : List Section}
    (h : (Java.constructorSections context name extendsBase inherited own).Gives parts) :
    ∀ part ∈ parts, ¬BeginsOverride .java part := by
  unfold Java.constructorSections at h
  split at h
  · simp [← h.of_pure]
  · obtain ⟨part, given, h⟩ := h.of_bind
    rw [← h.of_pure]
    refine List.forall_mem_singleton.2 ?_
    obtain ⟨parameters, -, given⟩ := given.of_bind
    extract_lets finish at given
    have finished (superCall : List String) (given : (finish superCall).Gives part) :
        ¬BeginsOverride .java part := by
      obtain ⟨assignments, -, given⟩ := given.of_bind
      rw [← given.of_pure]
      simp only [List.append_assoc]
      exact not_beginsOverride_of_begins (by simp)
    split at given
    · obtain ⟨arguments, -, given⟩ := given.of_bind
      exact finished _ given
    · exact finished _ given

theorem Java.not_beginsOverride_getter (h : (Java.getterSection context property).Gives part) :
    ¬BeginsOverride .java part := by
  obtain ⟨type, name, rest, rfl⟩ := Java.exists_getterSection h
  exact not_beginsOverride_of_begins (by simp)

theorem Java.not_beginsOverride_enum {definition : EnumDef}
    (h : (Java.enumSection definition).Gives part) : ¬BeginsOverride .java part := by
  obtain ⟨rest, rfl⟩ := Java.exists_enumSection h
  exact not_beginsOverride_of_begins (by simp)

theorem Java.exists_text {line : String} (head : declaration.head = [line]) :
    ∃ rest, Java.text declaration = line ++ rest := by
  unfold Java.text
  rw [head]
  exact ⟨_, textOfLines_cons _ _⟩

/-- The sections of a Java class: its own, with the comparison among them, and those of the classes
in it. -/
theorem Java.laysOut_of_gives (java : context.language = .java)
    (h : (Java.declaration context id nested).Gives declaration) :
    ∃ inner, nested.Gives inner ∧ context.LaysOut id inner declaration := by
  obtain ⟨parts, declares⟩ := Java.exists_parts h
  have fields (nonempty : (context.splitFields id).2 ≠ []) :=
    not_beginsOverride_fields declares.fields nonempty
  have constructor := begins_of_constructorSections declares.constructor
  have getters := declares.getters.forall_of_mapM fun _ _ h => not_beginsOverride_getter h
  have enums := declares.enums.forall_of_mapM fun _ _ h => not_beginsOverride_enum h
  have words : ∃ more, (if (context.graph.get id).enclosing.isSome then "public static class "
      else "public class ") = "public " ++ more := by
    split
    · exact ⟨"static class ", by decide⟩
    · exact ⟨"class ", by decide⟩
  obtain ⟨more, words⟩ := words
  obtain ⟨rest, text⟩ := exists_text declares.head
  rw [words] at text
  refine ⟨parts.inner, declares.inner, ⟨"public ", by decide, ?_⟩, _, declares.sections, ?_⟩
  · rw [java]
    simp only [String.append_assoc] at text
    exact ⟨_, text⟩
  · rw [java]
    refine .of_writesComparison declares.equality ?_ equalsSection_spec hashSection_spec
    grind

/-! ## Nested classes -/

/-- The declaration of a class has its own sections before those of the classes in it. -/
theorem Context.laysOut_of_gives (notPython : context.language ≠ .python)
    (h : (context.declaration id nested).Gives declaration) :
    ∃ inner, nested.Gives inner ∧ context.LaysOut id inner declaration := by
  unfold Context.declaration at h
  split at h
  · exact Kotlin.laysOut_of_gives ‹_› h
  · exact Java.laysOut_of_gives ‹_› h
  · exact absurd ‹_› notPython

theorem plain_of_mem_declarationWords : ∀ start ∈ declarationWords,
    start ≠ "" ∧ start.toList.all (!Text.endsLine ·) := by
  decide

theorem not_prefix_of_mem_declarationWords {language : TargetLanguage}
    (notPython : language ≠ .python) (more : String) : ∀ start ∈ declarationWords,
    ¬(overrideWord language).toList <+: (start ++ more).toList := by
  cases language with
  | kotlin => simp [declarationWords, overrideWord]
  | java => simp [declarationWords, overrideWord]
  | python => exact absurd rfl notPython

/-- The sections of nested classes override nothing in the class around them. -/
theorem Context.begins_of_nestedSections (notPython : context.language ≠ .python)
    {trees : List ClassTree} {inner : List Section}
    (h : (context.nestedSections trees).Gives inner) :
    ∀ part ∈ inner, ¬BeginsOverride context.language part := by
  induction trees generalizing inner with
  | nil =>
    rw [Context.nestedSections] at h
    simp [← h.of_pure]
  | cons tree rest ih =>
    rw [Context.nestedSections] at h
    split at h
    · exact ih h
    · obtain ⟨text, given, h⟩ := h.of_bind
      obtain ⟨others, areOthers, h⟩ := h.of_bind
      rw [← h.of_pure]
      refine List.forall_mem_cons.2 ⟨?_, ih areOthers⟩
      cases tree with
      | node id nested =>
        rw [Context.classText, Context.declarationText_eq] at given
        obtain ⟨declaration, declares, rfl⟩ := given.of_map
        obtain ⟨_, -, laysOut⟩ :=
          @Context.laysOut_of_gives (context.within id) _ _ _ notPython declares
        obtain ⟨start, mem, rest, begins⟩ := laysOut.begins
        obtain ⟨nonempty, noEnd⟩ := plain_of_mem_declarationWords start mem
        obtain ⟨more, others, lines⟩ := Text.exists_lines nonempty (by simpa using noEnd) rest
        rw [begins, lines]
        exact not_beginsOverride (not_prefix_of_mem_declarationWords notPython more start mem) _

/-- A class has a comparison of its own if its kind is written with one, and it asks the superclass
in it if it extends one. -/
theorem Context.Declares.compares (notPython : context.language ≠ .python)
    (h : context.Declares id declaration) :
    Compares context.language (context.graph.get id).name
      (writesEquality context.language (context.graph.get id).kind)
      (context.superclass? id).isSome declaration.sections := by
  obtain ⟨inner, isInner, laysOut⟩ := @Context.laysOut_of_gives (context.place id) _ _ _ notPython h
  obtain ⟨own, sections, compares⟩ := laysOut.sections
  rw [sections]
  exact compares.append
    (@Context.begins_of_nestedSections (context.inFile id) notPython _ _ isInner)

end

/-! ## Runs -/

theorem writesEquality_java_iff {kind : ClassKind} :
    writesEquality .java kind ↔ kind ≠ .plain := by
  simp [writesEquality, Java.writesEquality]

section

variable {document package : Value} {registered : List Definition}
  {returned : List (Definition × ClassId)} {succeeded : Bool} {s : BuildState} {context : Context}
  {id base : ClassId} {declaration above : Declaration}

/-- The text of a class with everything nested in it is that of its declaration. -/
theorem Context.exists_declares {source : Source} (sound : s.Sound source)
    (graph : context.graph = s.graph) {text : String}
    (h : ((context.inFile id).classText (context.graph.tree id)).Gives text) :
    ∃ declaration, context.Declares id declaration ∧
      declaration.text context.language = text := by
  have isTree : context.graph.tree id =
      .node id ((context.graph.get id).nested.map context.graph.tree) := by
    rw [graph, sound.nesting.tree_eq]
  rw [isTree, Context.classText, Context.declarationText_eq] at h
  exact h.of_map

/-- The base of a class that is no alternative is compared by value if it has properties. -/
theorem BuildState.Sound.plain_base_iff {source : Source} (h : s.Sound source)
    (extension : s.graph.IsExtension source.root id base) (inside : base < s.graph.size) :
    (s.graph.get base).kind = .plain ↔ s.graph.allProperties base = [] := by
  rcases h.composition.kind inside extension.baseKind with blank | kind
  · exact absurd extension.complete (by simp [blank.built])
  · rw [kind]
    exact kindFor_eq_plain_iff

/-- Where the comparison by value of a class asks the superclass, that one has a comparison of its
own, and objects are not compared by identity. This fails exactly in Java, for a class that extends
one without properties and has some itself. -/
theorem Run.overrides_of_asksSuper_iff (distinct : document.distinctKeys)
    (run : Run ⟨.ofValue document, package⟩ registered returned succeeded s)
    (graph : context.graph = s.graph) (notPython : context.language ≠ .python)
    (superclass : context.superclass? id = some base) (declares : context.Declares id declaration)
    (aboveDeclares : context.Declares base above) :
    (AsksSuper context.language (context.graph.get id).name declaration.sections →
      Overrides context.language (context.graph.get base).name above.sections) ↔
      ¬(context.language = .java ∧ (context.graph.get id).kind = .data ∧
        context.graph.allProperties base = []) := by
  have sound := (run.invariant distinct rfl).sound
  rw [(declares.compares notPython).asks, (aboveDeclares.compares notPython).overrides, superclass]
  have isBase := Context.base_of_superclass? superclass
  cases language : context.language with
  | python => exact absurd language notPython
  | kotlin =>
    -- Only an open base is extended.
    have isOpen : (context.graph.get base).kind = .openBase := by
      have extended := (Option.filter_eq_some_iff.1 superclass).2
      simpa [Context.canExtend, language] using extended
    simp [isOpen, writesEquality, Kotlin.writesEquality]
  | java =>
    rw [writesEquality_java_iff, writesEquality_java_iff]
    rw [graph] at isBase ⊢
    rcases sound.composition.base isBase with variant | extension
    · simp [variant.kind, variant.baseKind]
    · have inside := sound.composition.founded.lt_size isBase
      rw [← sound.plain_base_iff extension inside]
      rcases extension.kind with kind | kind <;> simp [kind]

def Context.writesText (context : Context) (id : ClassId) : Bool :=
  (((context.inFile id).classText (context.graph.tree id)).run' {}).isSome

theorem Context.declares_of_writesText {source : Source} (sound : s.Sound source)
    (graph : context.graph = s.graph) (written : context.writesText id) :
    ∃ declaration, context.Declares id declaration := by
  obtain ⟨text, given⟩ := Emit.exists_gives_of_isSome written
  obtain ⟨declaration, declares, -⟩ := Context.exists_declares sound graph given
  exact ⟨declaration, declares⟩

theorem Run.overrides_of_asksSuper_iff_accounts : ∃ id s,
    buildRoot ⟨.ofValue accounts, .string ""⟩ (.ofValue accounts) none {} = .ok id s ∧
    ∀ language ∈ [TargetLanguage.kotlin, .java], ∃ (context : Context)
      (declaration above : Declaration), context.graph = s.graph ∧ context.language = language ∧
      context.superclass? 1 = some 0 ∧ context.Declares 1 declaration ∧ context.Declares 0 above ∧
      (AsksSuper context.language (context.graph.get 1).name declaration.sections →
        Overrides context.language (context.graph.get 0).name above.sections) := by
  let context (graph : ClassGraph) (language : TargetLanguage) : Context :=
    { graph, settings := {}, language }
  have built : ((buildRoot ⟨.ofValue accounts, .string ""⟩ (.ofValue accounts) none >>=
      fun _ => get).run' {}).any fun s => (s.graph.get 1).kind ≠ .data &&
        [TargetLanguage.kotlin, .java].all fun language =>
          (context s.graph language).superclass? 1 == some 0 &&
          (context s.graph language).writesText 1 && (context s.graph language).writesText 0 := by
    decide +kernel
  obtain ⟨id, s, run, test⟩ := Build.exists_of_any built
  simp only [Bool.and_eq_true, beq_iff_eq, List.all_eq_true, decide_eq_true_eq] at test
  obtain ⟨kind, each⟩ := test
  have distinct : accounts.distinctKeys := by decide
  have sound := ((Run.root run).invariant distinct rfl).sound
  refine ⟨id, s, run, fun language mem => ?_⟩
  obtain ⟨⟨superclass, first⟩, second⟩ := each language mem
  have notPython : language ≠ .python := by
    rintro rfl
    exact absurd mem (by decide)
  obtain ⟨declaration, declares⟩ := Context.declares_of_writesText sound rfl first
  obtain ⟨above, aboveDeclares⟩ := Context.declares_of_writesText sound rfl second
  exact ⟨context s.graph language, declaration, above, rfl, rfl, superclass, declares,
    aboveDeclares, (Run.overrides_of_asksSuper_iff distinct (.root run) rfl notPython superclass
      declares aboveDeclares).2 fun ⟨_, isData, _⟩ => kind isData⟩

/-- A dog in Java asks the class of animals, which has no properties and no comparison. -/
theorem dog_not_overrides : ∃ id s,
    buildRoot ⟨.ofValue dog, .string ""⟩ (.ofValue dog) (some "Dog") {} = .ok id s ∧
    ∃ (context : Context) (declaration above : Declaration), context.graph = s.graph ∧
      context.language = .java ∧ context.superclass? 0 = some 1 ∧
      context.Declares 0 declaration ∧ context.Declares 1 above ∧
      AsksSuper context.language (context.graph.get 0).name declaration.sections ∧
      ¬Overrides context.language (context.graph.get 1).name above.sections := by
  let context (graph : ClassGraph) : Context := { graph, settings := {}, language := .java }
  have built : ((buildRoot ⟨.ofValue dog, .string ""⟩ (.ofValue dog) (some "Dog") >>=
      fun _ => get).run' {}).any fun s => (s.graph.get 0).kind ≠ .plain &&
        (s.graph.get 1).kind = .plain && (context s.graph).superclass? 0 == some 1 &&
        (context s.graph).writesText 0 && (context s.graph).writesText 1 := by
    decide +kernel
  obtain ⟨id, s, run, test⟩ := Build.exists_of_any built
  simp only [Bool.and_eq_true, beq_iff_eq, decide_eq_true_eq] at test
  obtain ⟨⟨⟨⟨kind, plain⟩, superclass⟩, first⟩, second⟩ := test
  have sound := ((Run.root run).invariant (by decide : dog.distinctKeys) rfl).sound
  obtain ⟨declaration, declares⟩ := Context.declares_of_writesText sound rfl first
  obtain ⟨above, aboveDeclares⟩ := Context.declares_of_writesText sound rfl second
  refine ⟨id, s, run, context s.graph, declaration, above, rfl, rfl, superclass, declares,
    aboveDeclares, ?_, ?_⟩
  · have compares := declares.compares (by decide : TargetLanguage.java ≠ .python)
    exact compares.asks.2 ⟨writesEquality_java_iff.2 kind, by rw [superclass]; rfl⟩
  · have compares := aboveDeclares.compares (by decide : TargetLanguage.java ≠ .python)
    exact fun overrides => writesEquality_java_iff.1 (compares.overrides.1 overrides) plain

end

end SchemaClasses
