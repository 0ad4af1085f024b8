import SchemaClasses.Names.PascalCase

/-!
# The characters of a text in Pascal case

A text in Pascal case has only ASCII letters and digits in it, but for an underscore that guards a
digit and a line feed that has been passed over.

## Main definitions

* `inName`: the characters of texts in Pascal case.

## Main statements

* `inName_of_mem_pascalChars`: a text in Pascal case has no other ones.
* `pascalChars_cases`: a text in Pascal case begins with a capital or an underscore.
-/

namespace SchemaClasses

def inName (c : Char) : Bool := c.isAlphanum || c = '_' || c = '\n'

theorem isUpper_iff {c : Char} : c.isUpper ↔ 65 ≤ c.toNat ∧ c.toNat ≤ 90 := by
  have range : c.isUpper = decide (65 ≤ c.val ∧ c.val ≤ 90) := rfl
  rw [range, decide_eq_true_iff, UInt32.le_iff_toNat_le, UInt32.le_iff_toNat_le]
  rfl

theorem isLower_iff {c : Char} : c.isLower ↔ 97 ≤ c.toNat ∧ c.toNat ≤ 122 := by
  have range : c.isLower = (decide (97 ≤ c.val) && decide (c.val ≤ 122)) := rfl
  rw [range, Bool.and_eq_true, decide_eq_true_iff, decide_eq_true_iff, UInt32.le_iff_toNat_le,
    UInt32.le_iff_toNat_le]
  rfl

theorem isAlphanum_iff {c : Char} : c.isAlphanum ↔ c.isLower ∨ c.isUpper ∨ c.isDigit := by
  have alternatives : c.isAlphanum = ((c.isUpper || c.isLower) || c.isDigit) := rfl
  rw [alternatives, Bool.or_eq_true, Bool.or_eq_true, or_comm (a := c.isUpper), or_assoc]

theorem isAlpha_iff {c : Char} : c.isAlpha ↔ c.isUpper ∨ c.isLower := by
  have alternatives : c.isAlpha = (c.isUpper || c.isLower) := rfl
  rw [alternatives, Bool.or_eq_true]

theorem not_isAlpha_of_isDigit {c : Char} (digit : c.isDigit) : ¬c.isAlpha := by
  simp only [Char.isDigit_iff_toNat, Char.reduceToNat] at digit
  rw [isAlpha_iff, isUpper_iff, isLower_iff]
  omega

theorem isAlphanum_of_inWord {c : Char} (h : inWord c) : c.isAlphanum := by
  rw [inWord, Bool.or_eq_true, Bool.or_eq_true, or_assoc] at h
  exact isAlphanum_iff.2 h

theorem isAlphanum_toUpper {c : Char} (h : c.isAlphanum) : c.toUpper.isAlphanum := by
  unfold Char.toUpper
  split
  · rename_i lower
    have lower' : 97 ≤ c.toNat ∧ c.toNat ≤ 122 := by
      simpa [UInt32.le_iff_toNat_le] using lower
    refine isAlphanum_iff.2 (.inr (.inl (isUpper_iff.2 ?_)))
    simp [UInt32.toNat_add]
    omega
  · exact h

theorem isAlphanum_toLower {c : Char} (h : c.isAlphanum) : c.toLower.isAlphanum := by
  unfold Char.toLower
  split
  · rename_i upper
    have upper' : 65 ≤ c.toNat ∧ c.toNat ≤ 90 := by
      simpa [UInt32.le_iff_toNat_le] using upper
    refine isAlphanum_iff.2 (.inl (isLower_iff.2 ?_))
    simp [UInt32.toNat_add]
    omega
  · exact h

theorem inWord_of_mem_words {text : List Char} {c : Char} (mem : c ∈ (words text).flatten) :
    inWord c := by
  fun_induction words text <;> grind [List.flatten_cons]

theorem isAlphanum_of_mem_capitalize {word : List Char} {c : Char}
    (all : ∀ d ∈ word, d.isAlphanum) (mem : c ∈ capitalize word) : c.isAlphanum := by
  cases word with
  | nil => cases mem
  | cons first rest =>
    rcases List.mem_cons.1 mem with rfl | mem
    · exact isAlphanum_toUpper (all first List.mem_cons_self)
    · obtain ⟨d, hd, rfl⟩ := List.mem_map.1 mem
      exact isAlphanum_toLower (all d (List.mem_cons_of_mem first hd))

theorem eq_underscore_or_mem_of_mem_guardDigit {text : List Char} {c : Char}
    (mem : c ∈ guardDigit text) : c = '_' ∨ c ∈ text := by
  unfold guardDigit at mem
  split at mem
  · cases mem
  · split at mem
    · exact List.mem_cons.1 mem
    · exact .inr mem

theorem mem_dropFinalNewline_or {text : List Char} {c : Char} (mem : c ∈ text) :
    c ∈ Text.dropFinalNewline text ∨ c = '\n' := by
  unfold Text.dropFinalNewline
  split
  · rename_i last
    obtain ⟨before, rfl⟩ := List.getLast?_eq_some_iff.1 last
    rw [List.dropLast_concat]
    exact (List.mem_append.1 mem).imp_right List.mem_singleton.1
  · exact .inl mem

/-- The words of a text, joined, have only letters, digits and underscores in them. -/
theorem eq_underscore_or_isAlphanum {text : List Char} {c : Char}
    (mem : c ∈ guardDigit ((words text).flatMap capitalize)) : c = '_' ∨ c.isAlphanum := by
  refine (eq_underscore_or_mem_of_mem_guardDigit mem).imp_right fun mem => ?_
  obtain ⟨word, hword, mem⟩ := List.mem_flatMap.1 mem
  refine isAlphanum_of_mem_capitalize (fun d hd => ?_) mem
  exact isAlphanum_of_inWord (inWord_of_mem_words (List.mem_flatten_of_mem hword hd))

/-- A text in Pascal case has only letters, digits, underscores and line feeds in it. -/
theorem inName_of_mem_pascalChars {text : List Char} {c : Char} (mem : c ∈ pascalChars text) :
    inName c := by
  unfold pascalChars at mem
  split at mem
  · rename_i isPascal
    rcases mem_dropFinalNewline_or mem with kept | rfl
    · cases text with
      | nil => cases mem
      | cons first rest =>
        simp only [isPascalCase, Bool.and_eq_true, List.all_eq_true] at isPascal
        simp [inName, isPascal.1.2 c kept]
    · rfl
  · rcases eq_underscore_or_isAlphanum mem with rfl | letter
    · rfl
    · simp [inName, letter]

/-! ## The first character -/

theorem not_isLower_of_isUpper {c : Char} (h : c.isUpper) : ¬c.isLower := by
  rw [isUpper_iff] at h
  rw [isLower_iff]
  omega

/-- The capital of a character in a word is a capital or a digit. -/
theorem isUpper_or_isDigit_toUpper {c : Char} (h : inWord c) :
    c.toUpper.isUpper ∨ c.toUpper.isDigit := by
  have alphanumeric := isAlphanum_iff.1 (isAlphanum_toUpper (isAlphanum_of_inWord h))
  refine alphanumeric.resolve_left ?_
  unfold Char.toUpper
  split
  · rename_i lower
    have lower' : 97 ≤ c.toNat ∧ c.toNat ≤ 122 := by
      simpa [UInt32.le_iff_toNat_le] using lower
    rw [isLower_iff]
    simp [UInt32.toNat_add]
    omega
  · rename_i other
    rw [isLower_iff]
    simpa [UInt32.le_iff_toNat_le] using other

/-- Capitalized words begin with a capital or a digit. -/
theorem isUpper_or_isDigit_of_head {words : List (List Char)} {c : Char}
    (all : ∀ d ∈ words.flatten, inWord d) (h : (words.flatMap capitalize).head? = some c) :
    c.isUpper ∨ c.isDigit := by
  induction words with
  | nil => cases h
  | cons word rest ih =>
    rw [List.flatten_cons, List.forall_mem_append] at all
    cases word with
    | nil => exact ih all.2 h
    | cons first others =>
      obtain rfl : first.toUpper = c := by simpa [capitalize] using h
      exact isUpper_or_isDigit_toUpper (all.1 first List.mem_cons_self)

/-- A text in Pascal case begins with a capital or with an underscore that guards a digit. -/
theorem pascalChars_cases (text : List Char) : pascalChars text = [] ∨
    (∃ c rest, pascalChars text = c :: rest ∧ c.isUpper) ∨
    ∃ d rest, pascalChars text = '_' :: d :: rest ∧ d.isDigit := by
  unfold pascalChars
  split
  · rename_i isPascal
    cases text with
    | nil => exact .inl rfl
    | cons first rest =>
      simp only [isPascalCase, Bool.and_eq_true] at isPascal
      exact .inr (.inl ⟨first, rest, rfl, isPascal.1.1⟩)
  · have begins (c : Char) := @isUpper_or_isDigit_of_head (words text) c fun _ => inWord_of_mem_words
    unfold guardDigit
    split
    · exact .inl rfl
    · rename_i c rest eq
      rw [eq] at begins
      split
      · rename_i digit
        exact .inr (.inr ⟨c, rest, rfl, digit⟩)
      · rename_i notDigit
        exact .inr (.inl ⟨c, rest, rfl, (begins c rfl).resolve_right notDigit⟩)

/-- A text in Pascal case does not begin with a small letter. -/
theorem not_isLower_of_head_pascalChars {text : List Char} {c : Char}
    (h : (pascalChars text).head? = some c) : ¬c.isLower := by
  rcases pascalChars_cases text with eq | ⟨first, rest, eq, capital⟩ | ⟨digit, rest, eq, -⟩
  · simp [eq] at h
  · obtain rfl : first = c := by simpa [eq] using h
    exact not_isLower_of_isUpper capital
  · obtain rfl : '_' = c := by simpa [eq] using h
    decide

/-- A text in Pascal case does not begin with a digit. -/
theorem not_isDigit_of_head_pascalChars {text : List Char} {c : Char}
    (h : (pascalChars text).head? = some c) : ¬c.isDigit := by
  rcases pascalChars_cases text with eq | ⟨first, rest, eq, capital⟩ | ⟨digit, rest, eq, -⟩
  · simp [eq] at h
  · obtain rfl : first = c := by simpa [eq] using h
    exact fun digit => not_isAlpha_of_isDigit digit (isAlpha_iff.2 (.inl capital))
  · obtain rfl : '_' = c := by simpa [eq] using h
    decide

/-- An underscore at the beginning of a text in Pascal case guards a digit. -/
theorem isDigit_of_pascalChars_eq_cons {text rest : List Char}
    (h : pascalChars text = '_' :: rest) : ∃ d ∈ rest.head?, d.isDigit := by
  rcases pascalChars_cases text with eq | ⟨first, others, eq, capital⟩ | ⟨d, others, eq, digit⟩
  · simp [eq] at h
  · obtain rfl := (List.cons.inj (eq.symm.trans h)).1
    exact absurd capital (by decide)
  · obtain rfl := (List.cons.inj (eq.symm.trans h)).2
    exact ⟨d, rfl, digit⟩

end SchemaClasses
