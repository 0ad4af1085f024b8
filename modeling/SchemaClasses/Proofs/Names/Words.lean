import Mathlib
import SchemaClasses.Proofs.Names.PascalCase

/-!
# The words of names

A word is a run of characters of which each goes on with the word of the one before it, and other
characters separate words. When the words of a text are capitalized and joined, a small letter
stands only after a letter of its own word. The words that are found in the result may be longer, as
digits run together, but capitalizing them changes nothing: a name keeps its form.

## Main definitions

* `IsCapitalized`: the form of words that are capitalized and joined.

## Main statements

* `words_append_separator`: a separator divides the words of a text.
* `isCapitalized_words`: words that are capitalized and joined have the form.
* `IsCapitalized.flatMap_words`: a text of the form stays as it is when its words are.
* `pascalCase_pascalCase`: a text in Pascal case keeps its form.
-/

namespace SchemaClasses

variable {c next : Char} {text rest word : List Char}

/-! ## Dividing texts -/

theorem inWord_eq_isAlphanum (c : Char) : inWord c = c.isAlphanum := by
  rw [Bool.eq_iff_iff, isAlphanum_iff, inWord, Bool.or_eq_true, Bool.or_eq_true, or_assoc]

/-- A word goes on with a small letter after a letter, or with a digit after a digit. -/
theorem continuesWordOf_iff :
    continuesWordOf c next ↔ next.isLower ∧ c.isAlpha ∨ next.isDigit ∧ c.isDigit := by
  simp [continuesWordOf, isAlpha_iff, or_comm]

theorem inWord_of_continuesWordOf (h : continuesWordOf c next) : inWord c ∧ inWord next := by
  rw [continuesWordOf_iff, isAlpha_iff] at h
  grind [inWord]

theorem words_of_not_inWord (h : ¬inWord c) : words (c :: rest) = words rest := by
  simp [words, h]

/-- A character that is in a word, and that the next one does not go on with, is a word. -/
theorem words_of_ends (h : inWord c) (ends : ∀ next ∈ rest.head?, ¬continuesWordOf c next) :
    words (c :: rest) = [c] :: words rest := by
  cases rest with
  | nil => simp [words, h]
  | cons next rest =>
    have differs : continuesWordOf c next = false := by simpa using ends
    rw [words.eq_def]
    simp only [h, ↓reduceIte]
    cases words (next :: rest) <;> simp [differs]

theorem words_of_continues (h : continuesWordOf c next) {first : List Char}
    {others : List (List Char)} (found : words (next :: rest) = first :: others) :
    words (c :: next :: rest) = (c :: first) :: others := by
  rw [words.eq_def]
  simp [(inWord_of_continuesWordOf h).1, found, h]

/-- The first word of a text that begins with a character in a word begins with it. -/
theorem exists_words_cons (h : inWord c) (rest : List Char) :
    ∃ tail others, words (c :: rest) = (c :: tail) :: others := by
  induction rest generalizing c with
  | nil => exact ⟨[], [], words_of_ends h nofun⟩
  | cons next rest ih =>
    by_cases continues : continuesWordOf c next
    · obtain ⟨tail, others, found⟩ := ih (inWord_of_continuesWordOf continues).2
      exact ⟨next :: tail, others, words_of_continues continues found⟩
    · exact ⟨[], _, words_of_ends h (by simpa using continues)⟩

/-- A separator divides the words of a text. -/
theorem words_append_separator (h : ¬inWord c) (before after : List Char) :
    words (before ++ c :: after) = words before ++ words after := by
  induction before with
  | nil => exact words_of_not_inWord h
  | cons d before ih =>
    by_cases isIn : inWord d
    · cases before with
      | nil =>
        have ends : ¬continuesWordOf d c := fun continues =>
          h (inWord_of_continuesWordOf continues).2
        have single : words [d] = [[d]] := words_of_ends isIn (by simp)
        rw [List.singleton_append, words_of_ends isIn (by simpa using ends),
          words_of_not_inWord h, single]
        rfl
      | cons next before =>
        by_cases continues : continuesWordOf d next
        · obtain ⟨tail, others, found⟩ :=
            exists_words_cons (inWord_of_continuesWordOf continues).2 before
          rw [found] at ih
          rw [words_of_continues continues found]
          exact words_of_continues continues ih
        · have ends : ∀ e ∈ (next :: before).head?, ¬continuesWordOf d e := by simpa using continues
          have joined : words (d :: (next :: before ++ c :: after)) =
              [d] :: words (next :: before ++ c :: after) := words_of_ends isIn ends
          rw [words_of_ends isIn ends, List.cons_append, joined, ih]
          rfl
    · rw [List.cons_append, words_of_not_inWord isIn, words_of_not_inWord isIn, ih]

/-- Words are not empty, and each of their characters goes on with the one before it. -/
theorem isChain_of_mem_words (mem : word ∈ words text) :
    word ≠ [] ∧ word.IsChain (continuesWordOf · ·) := by
  induction text generalizing word with
  | nil => cases mem
  | cons c rest ih =>
    by_cases isIn : inWord c
    · by_cases ends : ∀ next ∈ rest.head?, ¬continuesWordOf c next
      · rw [words_of_ends isIn ends] at mem
        rcases List.mem_cons.1 mem with rfl | mem
        · exact ⟨by simp, List.isChain_singleton c⟩
        · exact ih mem
      · cases rest with
        | nil => exact absurd nofun ends
        | cons next rest =>
          have continues : continuesWordOf c next := by simpa using ends
          obtain ⟨tail, others, found⟩ :=
            exists_words_cons (inWord_of_continuesWordOf continues).2 rest
          rw [found] at ih
          rw [words_of_continues continues found] at mem
          rcases List.mem_cons.1 mem with rfl | mem
          · exact ⟨by simp, .cons_cons continues (ih List.mem_cons_self).2⟩
          · exact ih (List.mem_cons_of_mem _ mem)
    · rw [words_of_not_inWord isIn] at mem
      exact ih mem

/-! ## Capitalized words -/

/-- Words that are capitalized and joined: a small letter stands only after a letter. -/
structure IsCapitalized (text : List Char) : Prop where
  inWord : ∀ c ∈ text, inWord c
  head : ∀ c ∈ text.head?, ¬c.isLower
  chain : text.IsChain fun before c => c.isLower → before.isAlpha

/-- In a word that is capitalized a small letter stands after a letter. The first character is
given apart, since it may have become a capital. -/
theorem isChain_map_toLower {first : Char} (alike : first.isAlpha = c.isAlpha)
    (h : (c :: rest).IsChain (continuesWordOf · ·)) :
    (first :: rest.map Char.toLower).IsChain fun before c => c.isLower → before.isAlpha := by
  induction rest generalizing c first with
  | nil => exact List.isChain_singleton first
  | cons next rest ih =>
    obtain ⟨continues, chain⟩ := List.isChain_cons_cons.1 h
    refine .cons_cons (fun small => ?_) (ih next.isAlpha_toLower_eq_isAlpha chain)
    rw [Char.isLower_toLower_eq_isAlpha] at small
    rw [alike]
    rcases continuesWordOf_iff.1 continues with ⟨-, letter⟩ | ⟨digit, -⟩
    · exact letter
    · exact absurd small (not_isAlpha_of_isDigit digit)

/-- The words of a text, capitalized and joined. -/
theorem isCapitalized_words (text : List Char) :
    IsCapitalized ((words text).flatMap capitalize) where
  inWord c mem := by
    obtain ⟨word, hword, mem⟩ := List.mem_flatMap.1 mem
    rw [inWord_eq_isAlphanum]
    refine isAlphanum_of_mem_capitalize (fun d hd => ?_) mem
    exact isAlphanum_of_inWord (inWord_of_mem_words (List.mem_flatten_of_mem hword hd))
  head c first := by
    rcases isUpper_or_isDigit_of_head (fun _ => inWord_of_mem_words) first with capital | digit
    · exact not_isLower_of_isUpper capital
    · exact fun small => not_isAlpha_of_isDigit digit (isAlpha_iff.2 (.inr small))
  chain := by
    have nonempty : [] ∉ (words text).map capitalize := by
      intro mem
      obtain ⟨word, hword, empty⟩ := List.mem_map.1 mem
      cases word with
      | nil => exact (isChain_of_mem_words hword).1 rfl
      | cons => cases empty
    rw [List.flatMap_def, List.isChain_flatten nonempty]
    constructor
    · intro capitalized mem
      obtain ⟨word, hword, rfl⟩ := List.mem_map.1 mem
      cases word with
      | nil => exact List.isChain_nil
      | cons c rest =>
        exact isChain_map_toLower c.isAlpha_toUpper_eq_isAlpha (isChain_of_mem_words hword).2
    · rw [List.isChain_map]
      refine List.Pairwise.isChain (List.pairwise_of_forall fun _ word before _ c first small => ?_)
      cases word with
      | nil => cases first
      | cons d rest =>
        obtain rfl : d.toUpper = c := by simpa [capitalize] using first
        simp at small

/-- The first word after its first character, and the words after it, spell the rest of the text.
The induction is on the rest. -/
theorem exists_words_eq (isIn : ∀ d ∈ c :: rest, inWord d)
    (chain : (c :: rest).IsChain fun before c => c.isLower → before.isAlpha) :
    ∃ tail others, words (c :: rest) = (c :: tail) :: others ∧
      tail.map Char.toLower ++ others.flatMap capitalize = rest := by
  induction rest generalizing c with
  | nil => exact ⟨[], [], words_of_ends (isIn c List.mem_cons_self) nofun, rfl⟩
  | cons next rest ih =>
    obtain ⟨first, isIn⟩ := List.forall_mem_cons.1 isIn
    obtain ⟨follows, chain⟩ := List.isChain_cons_cons.1 chain
    obtain ⟨tail, others, found, spelled⟩ := ih isIn chain
    by_cases continues : continuesWordOf c next
    · refine ⟨next :: tail, others, words_of_continues continues found, ?_⟩
      have kept : next.toLower = next := by
        refine Char.toLower_eq_of_not_isUpper fun capital => ?_
        rcases continuesWordOf_iff.1 continues with ⟨small, -⟩ | ⟨digit, -⟩
        · exact not_isLower_of_isUpper capital small
        · exact not_isAlpha_of_isDigit digit (isAlpha_iff.2 (.inl capital))
      rw [List.map_cons, kept, List.cons_append, spelled]
    · refine ⟨[], (next :: tail) :: others, ?_, ?_⟩
      · rw [words_of_ends first (by simpa using continues), found]
      · have kept : next.toUpper = next := Char.toUpper_eq_of_not_isLower fun small =>
          continues (continuesWordOf_iff.2 (.inl ⟨small, follows small⟩))
        simp [capitalize, kept, spelled]

/-- Words that are capitalized and joined stay as they are when the words of the result are. -/
theorem IsCapitalized.flatMap_words (h : IsCapitalized text) :
    (words text).flatMap capitalize = text := by
  cases text with
  | nil => rfl
  | cons c rest =>
    obtain ⟨tail, others, found, spelled⟩ := exists_words_eq h.inWord h.chain
    have kept : c.toUpper = c := Char.toUpper_eq_of_not_isLower (h.head c rfl)
    rw [found]
    simp [capitalize, kept, spelled]

/-- An underscore that guards a digit belongs to no word. -/
theorem words_guardDigit (text : List Char) : words (guardDigit text) = words text := by
  unfold guardDigit
  split
  · rfl
  · split
    · exact words_of_not_inWord (by decide)
    · rfl

/-- A text in Pascal case is left as it is. -/
theorem pascalChars_pascalChars (text : List Char) :
    pascalChars (pascalChars text) = pascalChars text := by
  by_cases isPascal : isPascalCase text
  · simp [pascalChars, isPascal]
  · have name : pascalChars text = guardDigit ((words text).flatMap capitalize) := by
      simp [pascalChars, isPascal]
    rw [name]
    unfold pascalChars
    split
    · rfl
    · rw [words_guardDigit, (isCapitalized_words text).flatMap_words]

/-- A text in Pascal case keeps its form, whatever text it is made from. -/
theorem pascalCase_pascalCase (text : String) : pascalCase (pascalCase text) = pascalCase text := by
  simp [pascalCase, pascalChars_pascalChars]

end SchemaClasses
