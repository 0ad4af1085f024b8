import SchemaClasses.Proofs.Names.Words

/-!
# Headings in Pascal case

A heading is a row of words with separators between them. Written in small letters it becomes its
words, each with a capital first letter. Written in capitals it stays in capitals: each capital
begins a word of its own, so no letter is made small, and only the separators go.

## Main definitions

* `Heading`: words of letters with separators between them.
* `Heading.text`: a heading as it is written.
* `Heading.title`: its words with capital first letters, joined.
* `Heading.ReadsAlike`: small letters and capitals are read as the same name.

## Main statements

* `Heading.readsAlike_iff`: the names of a heading in small letters and of one in capitals.
-/

namespace SchemaClasses

structure LetterWord where
  letters : List Char
  nonempty : letters ≠ [] := by decide
  all_isAlpha : letters.all Char.isAlpha := by rfl

def separators : List Char := ['_', '-', '.', ' ']

abbrev Separator := { c : Char // c ∈ separators }

structure Heading where
  first : LetterWord
  /-- The other words, each with the separator before it. -/
  others : List (Separator × LetterWord)

namespace Heading

def words (heading : Heading) : List LetterWord := heading.first :: heading.others.map (·.2)

def chars (heading : Heading) (write : Char → Char) : List Char :=
  heading.first.letters.map write ++
    heading.others.flatMap fun (separator, word) => separator.val :: word.letters.map write

def text (heading : Heading) (write : Char → Char) : String := String.ofList (heading.chars write)

/-- The words of a heading, each with a capital first letter and small letters after it, joined. -/
def title (heading : Heading) : String :=
  String.ofList (heading.words.flatMap (capitalize ·.letters))

def capitals (heading : Heading) : String :=
  String.ofList (heading.words.flatMap (·.letters.map Char.toUpper))

/-- A heading gives the same name in small letters and in capitals, its words with capital first
letters. -/
def ReadsAlike (heading : Heading) : Prop :=
  pascalCase (heading.text Char.toLower) = heading.title ∧
    pascalCase (heading.text Char.toUpper) = heading.title

end Heading

/-! ## The words that are found -/

theorem Separator.not_inWord (separator : Separator) : ¬inWord separator.val := by
  have all : ∀ c ∈ separators, ¬inWord c := by
    simp only [separators, List.forall_mem_cons]
    exact ⟨by decide, by decide, by decide, by decide, nofun⟩
  exact all separator.val separator.property

theorem Separator.not_isLower (separator : Separator) : ¬separator.val.isLower := fun small =>
  separator.not_inWord (by simp [inWord, small])

/-- The words that are found in a heading are those that are found in its words. -/
theorem Heading.words_chars (heading : Heading) (write : Char → Char) :
    SchemaClasses.words (heading.chars write) =
      heading.words.flatMap fun word => SchemaClasses.words (word.letters.map write) := by
  -- The text before the separators is general, so that the induction can take in one word more.
  have all (before : List Char) (others : List (Separator × LetterWord)) :
      SchemaClasses.words (before ++ others.flatMap fun (separator, word) =>
          separator.val :: word.letters.map write) =
        SchemaClasses.words before ++
          (others.map (·.2)).flatMap fun word => SchemaClasses.words (word.letters.map write) := by
    induction others generalizing before with
    | nil => simp
    | cons next others ih =>
      obtain ⟨separator, word⟩ := next
      simp only [List.flatMap_cons, List.map_cons, List.cons_append]
      rw [words_append_separator separator.not_inWord, ih]
  exact all _ _

namespace LetterWord

variable (word : LetterWord)

theorem exists_letters_eq : ∃ c rest, word.letters = c :: rest ∧ c.isAlpha := by
  obtain ⟨c, rest, eq⟩ := List.exists_cons_of_ne_nil word.nonempty
  exact ⟨c, rest, eq, List.all_eq_true.1 word.all_isAlpha c (eq ▸ List.mem_cons_self)⟩

/-- A word in small letters is one word. -/
theorem words_map_toLower :
    words (word.letters.map Char.toLower) = [word.letters.map Char.toLower] := by
  have small (letters : List Char) (c : Char) (all : ∀ d ∈ c :: letters, d.isAlpha) :
      words ((c :: letters).map Char.toLower) = [(c :: letters).map Char.toLower] := by
    induction letters generalizing c with
    | nil =>
      exact words_of_ends (by simp [inWord, all c]) nofun
    | cons next letters ih =>
      obtain ⟨first, all⟩ := List.forall_mem_cons.1 all
      have continues : continuesWordOf c.toLower next.toLower :=
        continuesWordOf_iff.2 (.inl (by simp [first, all next]))
      exact words_of_continues continues (ih next all)
  obtain ⟨letters, nonempty, all⟩ := word
  cases letters with
  | nil => exact absurd rfl nonempty
  | cons c letters => exact small letters c (List.all_eq_true.1 all)

/-- In a word in capitals each letter is a word. -/
theorem words_map_toUpper :
    words (word.letters.map Char.toUpper) = word.letters.map fun c => [c.toUpper] := by
  have capital (letters : List Char) (all : ∀ c ∈ letters, c.isAlpha) :
      words (letters.map Char.toUpper) = letters.map fun c => [c.toUpper] := by
    induction letters with
    | nil => rfl
    | cons c letters ih =>
      obtain ⟨first, all⟩ := List.forall_mem_cons.1 all
      have ends : ∀ next ∈ (letters.map Char.toUpper).head?, ¬continuesWordOf c.toUpper next := by
        intro next mem
        obtain ⟨d, hd, rfl⟩ := List.mem_map.1 (List.mem_of_mem_head? mem)
        have letter : d.toUpper.isAlpha := by simp [all d hd]
        rw [continuesWordOf_iff]
        rintro (⟨small, -⟩ | ⟨digit, -⟩)
        · simp at small
        · exact not_isAlpha_of_isDigit digit letter
      rw [List.map_cons, words_of_ends (by simp [inWord, first]) ends, ih all]
      rfl
  exact capital word.letters (List.all_eq_true.1 word.all_isAlpha)

theorem flatMap_words :
    (words (word.letters.map Char.toUpper)).flatMap capitalize =
      word.letters.map Char.toUpper := by
  rw [words_map_toUpper, List.flatMap_map, List.map_eq_flatMap]
  simp [capitalize]

theorem capitalize_map_toLower :
    capitalize (word.letters.map Char.toLower) = capitalize word.letters := by
  cases word.letters <;> simp [capitalize]

/-- A capital first letter makes capitals of a word exactly if it is the only one. -/
theorem capitalize_eq_iff :
    capitalize word.letters = word.letters.map Char.toUpper ↔ word.letters.length = 1 := by
  obtain ⟨letters, nonempty, all⟩ := word
  match letters with
  | [] => exact absurd rfl nonempty
  | [c] => simp [capitalize]
  | c :: next :: letters =>
    have differ : next.toLower ≠ next.toUpper := fun same => by
      have small : next.toLower.isLower := by simp [List.all_eq_true.1 all next]
      simp [same] at small
    simp [capitalize, differ]

end LetterWord

/-! ## The names of phrases -/

theorem isPascalCase_of_head {text : List Char} (h : ∀ c ∈ text.head?, ¬c.isUpper) :
    ¬isPascalCase text := by
  cases text with
  | nil => simp [isPascalCase]
  | cons c rest => simp [isPascalCase, h c rfl]

theorem isPascalCase_of_forall {text : List Char} (h : ∀ c ∈ text, ¬c.isLower) :
    ¬isPascalCase text := by
  have none : text.any Char.isLower = false := by simpa using h
  unfold isPascalCase
  split <;> simp [none]

theorem guardDigit_of_head {text : List Char} (h : ∀ c ∈ text.head?, ¬c.isDigit) :
    guardDigit text = text := by
  cases text with
  | nil => rfl
  | cons c rest => simp [guardDigit, h c rfl]

theorem length_capitalize (word : List Char) : (capitalize word).length = word.length := by
  cases word <;> simp [capitalize]

/-- The parts of two joined lists are the same if the lists are and parts are as long as others. -/
theorem flatMap_eq_flatMap_iff {α β : Type} {f g : α → List β} {list : List α}
    (length : ∀ a, (f a).length = (g a).length) :
    list.flatMap f = list.flatMap g ↔ ∀ a ∈ list, f a = g a := by
  refine ⟨fun same => ?_, List.flatMap_congr⟩
  induction list with
  | nil => nofun
  | cons a list ih =>
    obtain ⟨first, others⟩ := List.append_inj same (length a)
    exact List.forall_mem_cons.2 ⟨first, ih others⟩

namespace Heading

variable (heading : Heading)

/-- In small letters a heading becomes its words with capital first letters. -/
theorem pascalCase_toLower : pascalCase (heading.text Char.toLower) = heading.title := by
  have joined : (SchemaClasses.words (heading.chars Char.toLower)).flatMap capitalize =
      heading.words.flatMap (capitalize ·.letters) := by
    rw [words_chars, List.flatMap_assoc]
    simp [LetterWord.words_map_toLower, LetterWord.capitalize_map_toLower]
  obtain ⟨c, letters, first, letter⟩ := heading.first.exists_letters_eq
  have other : ¬isPascalCase (heading.chars Char.toLower) :=
    isPascalCase_of_head (by simp [chars, first])
  have capital : ∀ d ∈ (heading.words.flatMap (capitalize ·.letters)).head?, ¬d.isDigit := by
    have capital : c.toUpper.isAlpha := by simp [letter]
    simpa [words, first, capitalize] using fun digit => not_isAlpha_of_isDigit digit capital
  simp [pascalCase, text, title, pascalChars, other, joined, guardDigit_of_head capital]

/-- There are no small letters in a heading in capitals. -/
theorem not_isLower_of_mem_chars {c : Char} (mem : c ∈ heading.chars Char.toUpper) :
    ¬c.isLower := by
  have capital {word : LetterWord} (mem : c ∈ word.letters.map Char.toUpper) : ¬c.isLower := by
    obtain ⟨letter, -, rfl⟩ := List.mem_map.1 mem
    simp
  rcases List.mem_append.1 mem with mem | mem
  · exact capital mem
  · obtain ⟨⟨separator, word⟩, -, mem⟩ := List.mem_flatMap.1 mem
    rcases List.mem_cons.1 mem with rfl | mem
    · exact separator.not_isLower
    · exact capital mem

/-- In capitals a heading loses its separators only. -/
theorem pascalCase_toUpper : pascalCase (heading.text Char.toUpper) = heading.capitals := by
  have joined : (SchemaClasses.words (heading.chars Char.toUpper)).flatMap capitalize =
      heading.words.flatMap (·.letters.map Char.toUpper) := by
    rw [words_chars, List.flatMap_assoc]
    simp [LetterWord.flatMap_words]
  obtain ⟨c, letters, first, letter⟩ := heading.first.exists_letters_eq
  have other : ¬isPascalCase (heading.chars Char.toUpper) :=
    isPascalCase_of_forall fun _ => heading.not_isLower_of_mem_chars
  have capital : ∀ d ∈ (heading.words.flatMap (·.letters.map Char.toUpper)).head?, ¬d.isDigit := by
    have capital : c.toUpper.isAlpha := by simp [letter]
    simpa [words, first, capitalize] using fun digit => not_isAlpha_of_isDigit digit capital
  simp [pascalCase, text, capitals, pascalChars, other, joined, guardDigit_of_head capital]

/-- In small letters a heading becomes its words with capital first letters, and in capitals it
loses its separators only. So the two are read alike exactly if every word is a single letter. -/
theorem readsAlike_iff :
    pascalCase (heading.text Char.toLower) = heading.title ∧
    pascalCase (heading.text Char.toUpper) = heading.capitals ∧
    (heading.ReadsAlike ↔ ∀ word ∈ heading.words, word.letters.length = 1) := by
  refine ⟨heading.pascalCase_toLower, heading.pascalCase_toUpper, ?_⟩
  have alike : heading.ReadsAlike ↔ heading.capitals = heading.title := by
    rw [ReadsAlike, pascalCase_toLower, pascalCase_toUpper]
    exact and_iff_right rfl
  rw [alike, eq_comm, title, capitals, String.ofList_inj,
    flatMap_eq_flatMap_iff (by simp [length_capitalize])]
  exact forall₂_congr fun word _ => word.capitalize_eq_iff

end Heading

def firstName : Heading where
  first := { letters := ['f', 'i', 'r', 's', 't'] }
  others := [(⟨'_', by decide⟩, { letters := ['n', 'a', 'm', 'e'] })]

/-- In capitals a first name is not read as in small letters. -/
theorem firstName_not_readsAlike :
    firstName.text Char.toUpper = "FIRST_NAME" ∧ firstName.title = "FirstName" ∧
    pascalCase "FIRST_NAME" = "FIRSTNAME" ∧ ¬firstName.ReadsAlike := by
  have name : pascalCase "FIRST_NAME" = "FIRSTNAME" := by decide +kernel
  have title : firstName.title = "FirstName" := by decide +kernel
  have text : firstName.text Char.toUpper = "FIRST_NAME" := by decide +kernel
  refine ⟨text, title, name, fun alike => ?_⟩
  have same : "FIRSTNAME" = "FirstName" := by
    rw [← name, ← text, ← title]
    exact alike.2
  exact absurd same (by decide)

end SchemaClasses
