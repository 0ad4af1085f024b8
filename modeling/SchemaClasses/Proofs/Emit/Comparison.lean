import SchemaClasses.Proofs.Emit.Construction
import SchemaClasses.Proofs.Text.Split

/-!
# Comparison by value as it is written

A class of Java or Kotlin that is compared by value has two sections for it, which override the
comparison with another object and the hash code. Both of them ask the superclass first if the class
extends one.

## Main definitions

* `OverridesEquals`, `OverridesHash`: a section overrides the comparison, or the hash code.
* `AsksEquals`, `AsksHash`: a line of such a section asks the superclass.

## Main statements

* `Java.equalsSection_spec`, `Java.hashSection_spec`, `Kotlin.equalsSection_spec`,
  `Kotlin.hashSection_spec`: a section overrides its method, and which sections ask the superclass.
-/

namespace SchemaClasses

def Kotlin.equalsLine (name : String) : String :=
  "override fun equals(other: Any?): Boolean = this === other || other is " ++ name

def Kotlin.hashLine : String := "override fun hashCode(): Int"

def OverridesEquals (language : TargetLanguage) (name : String) (part : Section) : Prop :=
  match language with
  | .kotlin => ∃ more rest, part = indented 1 (Kotlin.equalsLine name ++ more) :: rest
  | .java => ∃ rest, part =
    indented 1 "@Override" :: indented 1 "public boolean equals(Object other) \x7b" :: rest
  | .python => False

def OverridesHash (language : TargetLanguage) (part : Section) : Prop :=
  match language with
  | .kotlin => ∃ more rest, part = indented 1 (Kotlin.hashLine ++ more) :: rest
  | .java => ∃ rest,
    part = indented 1 "@Override" :: indented 1 "public int hashCode() \x7b" :: rest
  | .python => False

def AsksEquals (language : TargetLanguage) (name line : String) : Prop :=
  match language with
  | .kotlin => line = Kotlin.equalsLine name ++ " && super.equals(other)" ∨
    line = Kotlin.equalsLine name ++ " && super.equals(other) &&"
  | .java => line = indented 1 "if (!super.equals(other))" ∨
    line = indented 1 "return super.equals(other);"
  | .python => False

def AsksHash (language : TargetLanguage) (line : String) : Prop :=
  match language with
  | .kotlin => line = Kotlin.hashLine ++ (" = " ++ "super.hashCode()") ∨
    (∃ term, line = Kotlin.hashLine ++ (" = 31 * " ++ ("super.hashCode()" ++ (" + " ++ term)))) ∨
    line = indented 1 "var hash = super.hashCode()"
  | .java => line = indented 1 ("return " ++ ("super.hashCode()" ++ ";")) ∨
    line = indented 1 ("int hash = " ++ ("super.hashCode()" ++ ";"))
  | .python => False

/-! ## Lines -/

section

variable {language : TargetLanguage} {name line : String} {lines : List String}

theorem indented_inj {levels : Nat} {line other : String} :
    indented levels line = indented levels other ↔ line = other := by
  induction levels with
  | zero => exact Iff.rfl
  | succ levels ih => simpa [indented] using ih

/-- Moving lines to the right keeps them apart, empty ones excepted. -/
theorem indented_mem_indent_iff (nonempty : line ≠ "") :
    indented 1 line ∈ Text.indent lines ↔ line ∈ lines := by
  unfold Text.indent indented indented
  rw [List.mem_map]
  constructor
  · rintro ⟨other, mem, eq⟩
    split at eq
    · rename_i empty
      obtain rfl : other = "" := by simpa using empty
      simp [Text.indentation, ← String.toList_inj] at eq
    · have same : other = line := by simpa using eq
      exact same ▸ mem
  · exact fun mem => ⟨line, mem, by simp [nonempty]⟩

/-- A property of lines that are not empty holds of a section of indented lines when it holds of one
of the lines. -/
theorem exists_indented_iff {P : String → Prop} (nonempty : ¬P "") :
    (∃ line, P line ∧ indented 1 line ∈ Text.indent lines) ↔ ∃ line ∈ lines, P line := by
  constructor
  · rintro ⟨line, holds, mem⟩
    exact ⟨line, (indented_mem_indent_iff fun eq => nonempty (eq ▸ holds)).1 mem, holds⟩
  · rintro ⟨line, mem, holds⟩
    exact ⟨line, holds, (indented_mem_indent_iff fun eq => nonempty (eq ▸ holds)).2 mem⟩

theorem not_asksEquals_empty : ¬AsksEquals language name "" := by
  intro h
  cases language with
  | kotlin =>
    rcases h with h | h
    · exact absurd (String.append_eq_empty_iff.1 h.symm).2 (by decide)
    · exact absurd (String.append_eq_empty_iff.1 h.symm).2 (by decide)
  | java => rcases h with h | h <;> exact absurd h (by decide)
  | python => exact h

theorem not_asksHash_empty : ¬AsksHash language "" := by
  intro h
  cases language with
  | kotlin =>
    rcases h with h | ⟨term, h⟩ | h
    · exact absurd h (by decide)
    · exact absurd (String.append_eq_empty_iff.1 h.symm).1 (by decide)
    · exact absurd h (by decide)
  | java => rcases h with h | h <;> exact absurd h (by decide)
  | python => exact h

end

/-! ## Java -/

namespace Java

variable {context : Context} {name line term : String} {property : Property} {own : List Property}
  {extendsBase : Bool} {part : Section}

/-- A field is called neither `super` nor by a name with a dot. -/
theorem field_ne_super (h : (field property).Gives name) : name ≠ "super" ∧ '.' ∉ name.toList := by
  have named := h.of_ofExcept
  unfold fieldName at named
  split at named
  · cases named
  · rename_i valid
    have plain : '.' ∉ property.name.toList := fun mem =>
      absurd (Python.inName_of_isIdentifier (by simpa using valid) mem) (by decide)
    split at named <;> cases named
    · refine ⟨ne_of_getLast?_ne ?_, ?_⟩
      · simp [escapeKeyword]
      · simpa [escapeKeyword] using plain
    · rename_i free
      refine ⟨?_, plain⟩
      rintro eq
      rw [eq] at free
      exact free (by decide)

/-- The hash code of a field is not that of the superclass. -/
theorem hashTerm_ne (h : (hashTerm context property).Gives term) : term ≠ "super.hashCode()" := by
  obtain ⟨name, named, h⟩ := h.of_bind
  obtain ⟨type, -, h⟩ := h.of_bind
  obtain ⟨other, plain⟩ := field_ne_super named
  have dotted : '.' ∈ "super.hashCode()".toList := by decide
  split at h
  · rename_i given
    obtain rfl := h.of_pure
    unfold primitiveHash? at given
    split at given <;> cases given
    · exact fun eq => plain (eq ▸ dotted)
    · exact ne_of_head?_ne (by simp)
    · exact ne_of_head?_ne (by simp)
    · exact ne_of_head?_ne (by simp)
  · rw [← h.of_pure]
    split
    · exact ne_of_head?_ne (by simp)
    · have split : "super.hashCode()" = "super" ++ ".hashCode()" := by decide
      rw [split]
      exact fun eq => other ((String.append_left_inj _).1 eq)

theorem asksHash_return_iff : AsksHash .java (indented 1 ("return " ++ term ++ ";")) ↔
    term = "super.hashCode()" := by
  constructor
  · rintro (h | h)
    · rw [indented_inj, String.append_assoc, String.append_right_inj] at h
      exact (String.append_left_inj _).1 h
    · rw [indented_inj, String.append_assoc] at h
      exact absurd h (ne_of_head?_ne (by simp))
  · rintro rfl
    exact .inl rfl

theorem asksHash_start_iff : AsksHash .java (indented 1 ("int hash = " ++ term ++ ";")) ↔
    term = "super.hashCode()" := by
  constructor
  · rintro (h | h)
    · rw [indented_inj, String.append_assoc] at h
      exact absurd h (ne_of_head?_ne (by simp))
    · rw [indented_inj, String.append_assoc, String.append_right_inj] at h
      exact (String.append_left_inj _).1 h
  · rintro rfl
    exact .inr rfl

theorem not_asksHash_next :
    ¬AsksHash .java (indented 1 ("hash = 31 * hash + " ++ term ++ ";")) := by
  rintro (h | h)
  · rw [indented_inj, String.append_assoc] at h
    exact absurd h (ne_of_head?_ne (by simp))
  · rw [indented_inj, String.append_assoc] at h
    exact absurd h (ne_of_head?_ne (by simp))

/-- The other lines of a method ask nothing. -/
theorem not_asksHash_fixed : ∀ line ∈ ["@Override", "public int hashCode() \x7b",
    indented 1 "return 0;", indented 1 "return hash;", "\x7d"], ¬AsksHash .java line := by
  unfold AsksHash
  decide

/-- The lines of a hash code ask the superclass when its first term does. -/
theorem exists_asksHash_iff {terms : List String} :
    (∃ line ∈ ["@Override", "public int hashCode() \x7b"] ++ hashLines terms ++ ["\x7d"],
      AsksHash .java line) ↔ terms.head? = some "super.hashCode()" := by
  have fixed := not_asksHash_fixed
  simp only [List.forall_mem_cons] at fixed
  obtain ⟨overrides, begins, zero, result, ends, -⟩ := fixed
  match terms with
  | [] => simp [hashLines, overrides, begins, zero, ends]
  | [term] => simp [hashLines, overrides, begins, ends, asksHash_return_iff]
  | first :: second :: rest =>
    have others : ∀ line ∈ (second :: rest).map (fun term =>
        indented 1 ("hash = 31 * hash + " ++ term ++ ";")) ++ [indented 1 "return hash;"] ++
          ["\x7d"],
        ¬AsksHash .java line := by
      simp only [List.forall_mem_append, List.forall_mem_singleton, List.forall_mem_map]
      exact ⟨⟨fun _ _ => not_asksHash_next, result⟩, ends⟩
    have starts : (∃ line ∈ indented 1 ("int hash = " ++ first ++ ";") :: ((second :: rest).map
        (fun term => indented 1 ("hash = 31 * hash + " ++ term ++ ";")) ++
          [indented 1 "return hash;"] ++ ["\x7d"]), AsksHash .java line) ↔
        first = "super.hashCode()" := by
      rw [List.exists_mem_cons_iff, asksHash_start_iff]
      exact or_iff_left fun ⟨line, mem, asks⟩ => others line mem asks
    simpa [hashLines, overrides, begins] using starts

/-! ### The comparison -/

/-- A comparison with the field of the other object is no call of the superclass, which does not
name that object. -/
theorem not_asksEquals_of_mem (mem : 'O' ∈ line.toList) : ¬AsksEquals .java name line := by
  rintro (rfl | rfl)
  · exact absurd mem (by decide)
  · exact absurd mem (by decide)

theorem mem_equalTest {test : String} (h : (equalTest context property).Gives test) :
    'O' ∈ test.toList := by
  obtain ⟨name, -, h⟩ := h.of_bind
  obtain ⟨type, -, h⟩ := h.of_bind
  split at h
  · simp [← h.of_pure]
  · split at h
    · simp [← h.of_pure]
    · simp [← h.of_pure]

theorem mem_unequalTest {test : String} (h : (unequalTest context property).Gives test) :
    'O' ∈ test.toList := by
  obtain ⟨name, -, h⟩ := h.of_bind
  obtain ⟨type, -, h⟩ := h.of_bind
  split at h
  · simp [← h.of_pure]
  · split at h
    · obtain ⟨equal, given, h⟩ := h.of_bind
      have mem := mem_equalTest given
      simp [← h.of_pure, mem]
    · simp [← h.of_pure]

/-- The lines that compare fields ask no superclass. -/
theorem not_asksEquals_comparisonLines {lines : List String}
    (h : (comparisonLines context own).Gives lines) :
    ∀ line ∈ lines, ¬AsksEquals .java name line := by
  have stops : ¬AsksEquals .java name (indented 2 "return false;") := by
    rintro (h | h) <;> exact absurd h (by decide)
  fun_induction comparisonLines context own generalizing lines with
  | case1 => simp [← h.of_pure]
  | case2 property =>
    obtain ⟨test, given, h⟩ := h.of_bind
    have mem := mem_equalTest given
    rw [← h.of_pure]
    refine List.forall_mem_singleton.2 (not_asksEquals_of_mem ?_)
    simp [indented, mem]
  | case3 property rest _ ih =>
    obtain ⟨test, given, h⟩ := h.of_bind
    obtain ⟨others, areOthers, h⟩ := h.of_bind
    have mem := mem_unequalTest given
    rw [← h.of_pure]
    refine List.forall_mem_append.2 ⟨?_, ih areOthers⟩
    refine List.forall_mem_cons.2 ⟨not_asksEquals_of_mem ?_, List.forall_mem_singleton.2 stops⟩
    simp [indented, mem]

theorem asksEquals_iff : AsksEquals .java name line ↔
    line = indented 1 "if (!super.equals(other))" ∨
      line = indented 1 "return super.equals(other);" :=
  Iff.rfl

theorem exists_asksEquals_superclassLines (name : String) (hasFields : Bool) :
    ∃ line ∈ superclassLines true hasFields, AsksEquals .java name line := by
  cases hasFields with
  | true => exact ⟨_, List.mem_cons_self, .inl rfl⟩
  | false => exact ⟨_, List.mem_cons_self, .inr rfl⟩

theorem not_asksEquals_superclassLines (name : String) (hasFields : Bool) :
    ∀ line ∈ superclassLines false hasFields, ¬AsksEquals .java name line := by
  simp only [asksEquals_iff]
  cases hasFields <;> decide

/-- The lines before those that ask the superclass. -/
theorem not_asksEquals_start (name other : String) : ∀ line ∈ ["@Override",
    "public boolean equals(Object other) \x7b", indented 1 "if (this == other)",
    indented 2 "return false;", indented 2 "return true;", "\x7d",
    indented 1 ("if (!(other instanceof " ++ other ++ "))")], ¬AsksEquals .java name line := by
  have fixed : ∀ line ∈ ["@Override", "public boolean equals(Object other) \x7b",
      indented 1 "if (this == other)", indented 2 "return false;", indented 2 "return true;",
      "\x7d"], ¬AsksEquals .java name line := by
    simp only [asksEquals_iff]
    decide
  have tested :
      ¬AsksEquals .java name (indented 1 ("if (!(other instanceof " ++ other ++ "))")) := by
    rintro (h | h)
    · rw [indented_inj] at h
      exact absurd (congrArg String.toList h) (by simp)
    · rw [indented_inj] at h
      exact absurd (congrArg String.toList h) (by simp)
  exact List.forall_mem_append.2 ⟨fixed, List.forall_mem_singleton.2 tested⟩

/-- The comparison is overridden, and asks the superclass if the class extends one. -/
theorem equalsSection_spec {other : String}
    (h : (equalsSection context other extendsBase own).Gives part) :
    OverridesEquals .java name part ∧
      ((∃ line, AsksEquals .java name line ∧ indented 1 line ∈ part) ↔ extendsBase) := by
  obtain ⟨comparisons, given, h⟩ := h.of_bind
  refine ⟨⟨_, h.of_pure.symm⟩, ?_⟩
  rw [← h.of_pure, exists_indented_iff not_asksEquals_empty]
  have start := not_asksEquals_start name other
  have compares : ∀ line ∈ comparisons, ¬AsksEquals .java name line :=
    not_asksEquals_comparisonLines given
  have cast : ¬AsksEquals .java name
      (indented 1 (other ++ " typedOther = (" ++ other ++ ")other;")) :=
    not_asksEquals_of_mem (by simp [indented])
  simp only [List.forall_mem_cons] at start
  cases extendsBase with
  | true =>
    obtain ⟨line, mem, asks⟩ := exists_asksEquals_superclassLines name (!own.isEmpty)
    exact iff_of_true ⟨line, by simp [mem], asks⟩ rfl
  | false =>
    have superclass := not_asksEquals_superclassLines name (!own.isEmpty)
    refine iff_of_false ?_ (by decide)
    push Not
    simp only [List.forall_mem_append, List.forall_mem_cons]
    refine ⟨⟨⟨⟨?_, superclass⟩, ?_⟩, compares⟩, ?_⟩
    · simp [start]
    · split
      · simp
      · exact List.forall_mem_singleton.2 cast
    · simp [start]

/-- The hash code is overridden, and asks the superclass if the class extends one. -/
theorem hashSection_spec (h : (hashSection context extendsBase own).Gives part) :
    OverridesHash .java part ∧
      ((∃ line, AsksHash .java line ∧ indented 1 line ∈ part) ↔ extendsBase) := by
  obtain ⟨terms, given, h⟩ := h.of_bind
  refine ⟨⟨_, h.of_pure.symm⟩, ?_⟩
  rw [← h.of_pure, exists_indented_iff not_asksHash_empty, exists_asksHash_iff]
  cases extendsBase with
  | true => simp
  | false =>
    have others := given.forall_of_mapM fun _ _ h => hashTerm_ne h
    refine iff_of_false (fun first => ?_) (by decide)
    exact others _ (List.mem_of_mem_head? first) rfl

end Java

/-! ## Kotlin -/

namespace Kotlin

variable {name line term : String} {property : Property} {own : List Property}
  {extendsBase : Bool} {part : Section}

/-- A marked line is a line, or a line with the mark after it. -/
theorem mem_markedLines {mark : String} {lines : List String}
    (mem : line ∈ markedLines mark lines) :
    line ∈ lines ∨ ∃ unmarked ∈ lines, line = unmarked ++ mark := by
  fun_induction markedLines mark lines with
  | case1 => cases mem
  | case2 => exact .inl mem
  | case3 first rest _ ih =>
    rcases List.mem_cons.1 mem with rfl | mem
    · exact .inr ⟨first, List.mem_cons_self, rfl⟩
    · rcases ih mem with mem | ⟨unmarked, mem, eq⟩
      · exact .inl (List.mem_cons_of_mem _ mem)
      · exact .inr ⟨unmarked, List.mem_cons_of_mem _ mem, eq⟩

/-- The first line of a comparison of fields, which is marked if other lines follow. -/
theorem markedLines_cons (mark : String) (line : String) (rest : List String) : ∃ others,
    markedLines mark (line :: rest) = (line ++ if rest = [] then "" else mark) :: others ∧
      ∀ other ∈ others, other ∈ rest ∨ ∃ unmarked ∈ rest, other = unmarked ++ mark := by
  cases rest with
  | nil => exact ⟨[], by simp [markedLines], by simp⟩
  | cons next rest => exact ⟨_, rfl, fun _ mem => mem_markedLines mem⟩

theorem asksEquals_iff : AsksEquals .kotlin name line ↔
    line = equalsLine name ++ " && super.equals(other)" ∨
      line = equalsLine name ++ " && super.equals(other) &&" :=
  Iff.rfl

theorem head?_append {text : String} {c : Char} (h : text.toList.head? = some c) (rest : String) :
    (text ++ rest).toList.head? = some c := by
  simp [h]

theorem head?_equalsLine (rest : String) : (equalsLine name ++ rest).toList.head? = some 'o' := by
  refine head?_append (head?_append ?_ name) rest
  decide

theorem head?_hashLine (rest : String) : (hashLine ++ rest).toList.head? = some 'o' := by
  refine head?_append ?_ rest
  decide

/-- The first line of a section, if it begins with a character. -/
theorem indent_cons {c : Char} (begins : line.toList.head? = some c) (rest : List String) :
    Text.indent (line :: rest) = indented 1 line :: Text.indent rest := by
  have nonempty : line ≠ "" := by
    rintro rfl
    simp at begins
  simp [Text.indent, indented, nonempty]

theorem head?_indented (levels : Nat) (line rest : String) :
    (indented (levels + 1) line ++ rest).toList.head? = some ' ' := by
  simp [indented, Text.indentation]

/-- A line that begins with a blank is not the first one of a comparison. -/
theorem not_asksEquals_of_head? (blank : line.toList.head? = some ' ') :
    ¬AsksEquals .kotlin name line := by
  rw [asksEquals_iff]
  rintro (rfl | rfl)
  · rw [head?_equalsLine] at blank
    cases blank
  · rw [head?_equalsLine] at blank
    cases blank

/-- The first line asks the superclass if it is written to do so. -/
theorem asksEquals_start_iff (marked : Prop) [Decidable marked] : AsksEquals .kotlin name
    (equalsLine name ++ (if extendsBase then " && super.equals(other)" else "") ++
      (if marked then "" else " &&")) ↔ extendsBase := by
  rw [asksEquals_iff, String.append_assoc, String.append_right_inj, String.append_right_inj]
  by_cases marked <;> cases extendsBase <;> simp [*]

/-- The comparison is overridden, and asks the superclass if the class extends one. -/
theorem equalsSection_spec (h : (equalsSection name extendsBase own).Gives part) :
    OverridesEquals .kotlin name part ∧
      ((∃ line, AsksEquals .kotlin name line ∧ indented 1 line ∈ part) ↔ extendsBase) := by
  unfold equalsSection at h
  extract_lets start at h
  obtain ⟨comparisons, given, h⟩ := h.of_bind
  have blank : ∀ line ∈ comparisons, ∀ rest, (line ++ rest).toList.head? = some ' ' :=
    given.forall_of_mapM fun property line h => by
      obtain ⟨field, -, h⟩ := h.of_bind
      exact h.of_pure ▸ head?_indented 1 _
  obtain ⟨others, lines, isOther⟩ := markedLines_cons " &&" start comparisons
  have silent : ∀ line ∈ others, ¬AsksEquals .kotlin name line := by
    intro line mem
    rcases isOther line mem with mem | ⟨unmarked, also, rfl⟩
    · exact not_asksEquals_of_head? (by simpa using blank line mem "")
    · exact not_asksEquals_of_head? (blank unmarked also " &&")
  rw [← h.of_pure, lines]
  constructor
  · refine ⟨(if extendsBase then " && super.equals(other)" else "") ++
      (if comparisons = [] then "" else " &&"), Text.indent others, ?_⟩
    rw [← String.append_assoc]
    exact indent_cons (by rw [String.append_assoc]; exact head?_equalsLine _) others
  · rw [exists_indented_iff not_asksEquals_empty, List.exists_mem_cons_iff,
      or_iff_left fun ⟨line, mem, asks⟩ => silent line mem asks]
    exact asksEquals_start_iff _

/-! ### The hash code -/

/-- The hash code of a field, which is not written like that of the superclass. -/
def IsFieldHash (term : String) : Prop :=
  ∃ name : String, '.' ∉ name.toList ∧ ' ' ∉ name.toList ∧ name ≠ "super" ∧
    term = name ++ ".hashCode()"

/-- The hash code of a field cannot be mistaken for that of the superclass. -/
theorem isFieldHash_of_gives (h : (field property).Gives name) :
    IsFieldHash (name ++ ".hashCode()") := by
  have named := h.of_ofExcept
  unfold fieldName at named
  split at named
  · cases named
  · rename_i valid
    have plain {c : Char} (other : ¬inName c) : c ∉ property.name.toList := fun mem =>
      other (Python.inName_of_isIdentifier (by simpa using valid) mem)
    have dot := plain (c := '.') (by decide)
    have blank := plain (c := ' ') (by decide)
    split at named <;> cases named
    · refine ⟨_, by simpa [escapeKeyword] using dot, by simpa [escapeKeyword] using blank, ?_, rfl⟩
      exact ne_of_head?_ne (by simp [escapeKeyword])
    · rename_i free
      refine ⟨_, dot, blank, ?_, rfl⟩
      rintro eq
      rw [eq] at free
      exact free (by decide)

/-- What stands before the first dot of the hash code of a field is its name. -/
theorem IsFieldHash.append_ne (h : IsFieldHash term) {start : String} (noDot : '.' ∉ start.toList)
    (other : ' ' ∈ start.toList ∨ start = "super") (rest more : String) :
    term ++ rest ≠ start ++ (".hashCode()" ++ more) := by
  obtain ⟨name, dot, blank, isOther, rfl⟩ := h
  intro eq
  have eq : name.toList ++ '.' :: ("hashCode()".toList ++ rest.toList) =
      start.toList ++ '.' :: ("hashCode()".toList ++ more.toList) := by
    simpa using congrArg String.toList eq
  have pieces := congrArg (Text.splitAt '.') eq
  rw [Text.splitAt_append_cons _ dot, Text.splitAt_append_cons _ noDot] at pieces
  have same := (List.cons.inj pieces).1
  rcases other with mem | rfl
  · exact blank (same ▸ mem)
  · exact isOther (String.toList_inj.1 same)

theorem IsFieldHash.append_ne_super (h : IsFieldHash term) (rest more : String) :
    term ++ rest ≠ "super.hashCode()" ++ more := by
  have split : "super.hashCode()" = "super" ++ ".hashCode()" := by decide
  rw [split, String.append_assoc]
  exact h.append_ne (by decide) (.inr rfl) rest more

theorem IsFieldHash.ne_product (h : IsFieldHash term) (more : String) :
    term ≠ "31 * " ++ ("super.hashCode()" ++ more) := by
  have split : "31 * super" ++ ".hashCode()" = "31 * " ++ "super.hashCode()" := by decide
  rw [← String.append_assoc, ← split, String.append_assoc]
  simpa using h.append_ne (by decide : '.' ∉ "31 * super".toList) (.inl (by decide)) "" more

theorem asksHash_iff : AsksHash .kotlin line ↔
    line = hashLine ++ (" = " ++ "super.hashCode()") ∨
      (∃ term, line = hashLine ++ (" = 31 * " ++ ("super.hashCode()" ++ (" + " ++ term)))) ∨
      line = indented 1 "var hash = super.hashCode()" :=
  Iff.rfl

theorem exists_hashLines (terms : List String) :
    ∃ more rest, hashLines terms = (hashLine ++ more) :: rest := by
  match terms with
  | [] => exact ⟨_, _, rfl⟩
  | [term] => exact ⟨" = " ++ term, [], by rw [← String.append_assoc]; rfl⟩
  | [first, second] =>
    exact ⟨" = 31 * " ++ first ++ " + " ++ second, [], by simp only [← String.append_assoc]; rfl⟩
  | first :: second :: third :: rest => exact ⟨_, _, rfl⟩

theorem exists_asksHash (rest : List String) :
    ∃ line ∈ hashLines ("super.hashCode()" :: rest), AsksHash .kotlin line := by
  match rest with
  | [] => exact ⟨_, List.mem_cons_self, .inl rfl⟩
  | [second] =>
    refine ⟨_, List.mem_cons_self, .inr (.inl ⟨second, ?_⟩)⟩
    simp only [String.append_assoc]
    rfl
  | second :: third :: rest =>
    exact ⟨_, List.mem_cons_of_mem _ List.mem_cons_self, .inr (.inr rfl)⟩

/-- A line inside a hash code asks nothing unless it begins with that of the superclass. -/
theorem not_asksHash_indented (other : line ≠ "var hash = super.hashCode()") :
    ¬AsksHash .kotlin (indented 1 line) := by
  have blank : (indented 1 line).toList.head? = some ' ' := by
    simpa using head?_indented 0 line ""
  rw [asksHash_iff]
  rintro (eq | ⟨term, eq⟩ | eq)
  · rw [eq, head?_hashLine] at blank
    cases blank
  · rw [eq, head?_hashLine] at blank
    cases blank
  · exact other (indented_inj.1 eq)

/-- A term of the hash code asks the superclass if it is the first one, with or without others after
it. -/
theorem asksHash_start_iff (rest : String) : AsksHash .kotlin (hashLine ++ rest) ↔
    rest = " = " ++ "super.hashCode()" ∨
      ∃ term, rest = " = 31 * " ++ ("super.hashCode()" ++ (" + " ++ term)) := by
  rw [asksHash_iff, String.append_right_inj]
  simp only [String.append_right_inj]
  have other : hashLine ++ rest ≠ indented 1 "var hash = super.hashCode()" := by
    refine ne_of_head?_ne ?_
    rw [head?_hashLine]
    decide
  simp only [other, or_false]

/-- The lines around those of the terms. -/
theorem not_asksHash_fixed : ∀ line ∈ [hashLine ++ " = 0", hashLine ++ " \x7b",
    indented 1 "return hash", "\x7d"], ¬AsksHash .kotlin line := by
  simp only [List.forall_mem_cons, asksHash_start_iff]
  refine ⟨?_, ?_, not_asksHash_indented (by decide), ?_, by simp⟩
  · rintro (h | ⟨term, h⟩)
    · exact absurd h (by decide)
    · exact absurd (congrArg String.toList h) (by simp)
  · rintro (h | ⟨term, h⟩)
    · exact absurd h (by decide)
    · exact absurd (congrArg String.toList h) (by simp)
  · rw [asksHash_iff]
    rintro (h | ⟨term, h⟩ | h)
    · exact absurd h (by decide)
    · exact absurd (congrArg (·.toList.head?) h) (by rw [head?_hashLine]; decide)
    · exact absurd h (by decide)

/-- The hash code of fields alone does not ask the superclass. -/
theorem not_asksHash_of_fields {terms : List String} (fields : ∀ term ∈ terms, IsFieldHash term) :
    ∀ line ∈ hashLines terms, ¬AsksHash .kotlin line := by
  have fixed := not_asksHash_fixed
  simp only [List.forall_mem_cons] at fixed
  obtain ⟨zero, starts, result, ends, -⟩ := fixed
  match terms with
  | [] => exact List.forall_mem_singleton.2 zero
  | [term] =>
    refine List.forall_mem_singleton.2 fun asks => ?_
    have field := fields term List.mem_cons_self
    have product : " = 31 * " = " = " ++ "31 * " := by decide
    rw [String.append_assoc] at asks
    rcases (asksHash_start_iff _).1 asks with h | ⟨other, h⟩
    · have eq := (String.append_right_inj _).1 h
      exact field.append_ne_super "" "" (by simpa using eq)
    · rw [product, String.append_assoc, String.append_right_inj] at h
      exact field.ne_product _ h
  | [first, second] =>
    refine List.forall_mem_singleton.2 fun asks => ?_
    have field := fields first List.mem_cons_self
    simp only [String.append_assoc] at asks
    rcases (asksHash_start_iff _).1 asks with h | ⟨other, h⟩
    · exact absurd (congrArg String.toList h) (by simp)
    · rw [String.append_right_inj] at h
      exact field.append_ne_super _ _ h
  | first :: second :: third :: rest =>
    have field := fields first List.mem_cons_self
    have begins : ¬AsksHash .kotlin (indented 1 ("var hash = " ++ first)) := by
      have call : "var hash = super.hashCode()" = "var hash = " ++ "super.hashCode()" := by decide
      refine not_asksHash_indented fun eq => ?_
      rw [call, String.append_right_inj] at eq
      exact field.append_ne_super "" "" (by simpa using eq)
    have next (term : String) : ¬AsksHash .kotlin (indented 1 ("hash = 31 * hash + " ++ term)) :=
      not_asksHash_indented (ne_of_head?_ne (by simp))
    simp only [hashLines, List.forall_mem_append, List.forall_mem_cons, List.forall_mem_map]
    exact ⟨⟨⟨starts, begins, by simp⟩, next second, next third, fun term _ => next term⟩,
      result, ends, by simp⟩

/-- The hash code is overridden, and asks the superclass if the class extends one. -/
theorem hashSection_spec (h : (hashSection extendsBase own).Gives part) :
    OverridesHash .kotlin part ∧
      ((∃ line, AsksHash .kotlin line ∧ indented 1 line ∈ part) ↔ extendsBase) := by
  obtain ⟨terms, given, h⟩ := h.of_bind
  have fields : ∀ term ∈ terms, IsFieldHash term := given.forall_of_mapM fun property term h => by
    obtain ⟨name, named, h⟩ := h.of_bind
    exact h.of_pure ▸ isFieldHash_of_gives named
  rw [← h.of_pure]
  constructor
  · obtain ⟨more, rest, lines⟩ := exists_hashLines
      ((if extendsBase then ["super.hashCode()"] else []) ++ terms)
    rw [lines, indent_cons (head?_hashLine more)]
    exact ⟨more, Text.indent rest, rfl⟩
  · rw [exists_indented_iff not_asksHash_empty]
    cases extendsBase with
    | true => exact iff_of_true (exists_asksHash terms) rfl
    | false =>
      refine iff_of_false ?_ (by decide)
      rintro ⟨line, mem, asks⟩
      exact not_asksHash_of_fields fields line mem asks

end Kotlin

end SchemaClasses
