import SchemaClasses.Emit.Layout
import SchemaClasses.Proofs.Emit.Templates

/-!
# Lines whose names are told apart

A line of a method is a text, and in a text an identifier of a property looks like a name that the
method has bound itself. A phrase is a line in which they are told apart. The lines of a guard are
those of a method whose phrases are made from the same templates.

## Main definitions

* `Word`, `Phrase`: what a line is made from.
* `Method`: the lines of a method as phrases.
* `Method.Has`: a word occurs in a method.
* `statementWords`: the phrases of a guard.

## Main statements

* `statementLines_eq_lines`: without the marks these are the lines of the guard.
* `mem_or_of_has_statementWords`: the names in the lines of a guard.
-/

namespace SchemaClasses

inductive Word where
  /-- Text that is neither of the others. What is qualified by something else is such text. -/
  | text (text : String)
  /-- The identifier of a property, not qualified by anything. -/
  | field (name : String)
  /-- A name that the method binds, where it is bound or used. -/
  | bound (name : String)

/-- A line whose names are told apart. -/
abbrev Phrase := List Word

abbrev Method := List Phrase

/-! ## Text -/

def Word.written : Word → String
  | .text shown | .field shown | .bound shown => shown

@[simp] theorem Word.written_text (text : String) : (Word.text text).written = text := rfl

@[simp] theorem Word.written_field (name : String) : (Word.field name).written = name := rfl

@[simp] theorem Word.written_bound (name : String) : (Word.bound name).written = name := rfl

def Word.isName : Word → Bool
  | .text _ => false
  | .field _ | .bound _ => true

theorem Word.ne_text {word : Word} (isName : word.isName) (text : String) : word ≠ .text text := by
  rintro rfl
  cases isName

namespace Phrase

def written (phrase : Phrase) : String := String.join (phrase.map Word.written)

def indented (levels : Nat) (phrase : Phrase) : Phrase :=
  match levels with
  | 0 => phrase
  | levels + 1 => .text Text.indentation :: indented levels phrase

section

variable {phrase other : Phrase} {word : Word}

@[simp] theorem written_nil : written [] = "" := rfl

@[simp] theorem written_cons : written (word :: phrase) = word.written ++ written phrase := by
  simp [written]

@[simp] theorem written_append : written (phrase ++ other) = written phrase ++ written other := by
  simp [written]

@[simp] theorem written_indented (levels : Nat) :
    (phrase.indented levels).written = SchemaClasses.indented levels phrase.written := by
  induction levels with
  | zero => rfl
  | succ levels ih => simp [indented, SchemaClasses.indented, ih]

theorem mem_indented_iff (isName : word.isName) (levels : Nat) :
    word ∈ indented levels phrase ↔ word ∈ phrase := by
  induction levels with
  | zero => rfl
  | succ levels ih =>
    rw [indented, List.mem_cons, ih]
    exact or_iff_right (Word.ne_text isName _)

/-- Joining phrases by a text adds no names. -/
theorem mem_intercalate_iff (isName : word.isName) (separator : String) (phrases : List Phrase) :
    word ∈ List.intercalate [.text separator] phrases ↔ ∃ phrase ∈ phrases, word ∈ phrase := by
  induction phrases with
  | nil => simp
  | cons first rest ih =>
    cases rest with
    | nil => simp
    | cons next rest => simp [List.intercalate_cons_cons, ih, Word.ne_text isName]

/-- Phrases with a text between each two of them. -/
theorem written_intercalate (separator : String) (phrases : List Phrase) :
    written (List.intercalate [.text separator] phrases) =
      separator.intercalate (phrases.map written) := by
  induction phrases with
  | nil => simp
  | cons first rest ih =>
    cases rest with
    | nil => simp
    | cons next rest =>
      rw [List.intercalate_cons_cons, written_append, written_append, ih, List.map_cons,
        List.map_cons, List.map_cons, String.intercalate_cons_cons]
      simp

end

end Phrase

namespace Method

def lines (method : Method) : List String := method.map Phrase.written

def indent (method : Method) : Method :=
  method.map fun line => if line.written.isEmpty then line else .text Text.indentation :: line

def marked (mark : String) : Method → Method
  | [] => []
  | [line] => [line]
  | line :: rest => (line ++ [.text mark]) :: marked mark rest

def toSection (method : Method) : Section := Text.indent method.lines

def Has (method : Method) (word : Word) : Prop := ∃ line ∈ method, word ∈ line

section

variable {method other : Method} {line : Phrase} {word : Word}

@[simp] theorem lines_nil : lines [] = [] := rfl

@[simp] theorem lines_cons : lines (line :: method) = line.written :: lines method := rfl

theorem map_written : List.map Phrase.written method = lines method := rfl

theorem isEmpty_lines : (lines method).isEmpty = method.isEmpty := List.isEmpty_map

@[simp] theorem lines_append : lines (method ++ other) = lines method ++ lines other :=
  List.map_append

@[simp] theorem lines_flatten (methods : List Method) :
    lines methods.flatten = (methods.map lines).flatten :=
  List.map_flatten

@[simp] theorem lines_map_indented (levels : Nat) :
    lines (method.map (Phrase.indented levels)) = (lines method).map (indented levels) := by
  simp [lines, Function.comp_def]

@[simp] theorem lines_indent : lines (indent method) = Text.indent (lines method) := by
  unfold lines indent Text.indent
  rw [List.map_map, List.map_map]
  refine List.map_congr_left fun line _ => ?_
  rw [Function.comp_apply, Function.comp_apply]
  split <;> simp

/-- Marks are put at the end of the same lines. -/
@[simp] theorem lines_marked (mark : String) :
    lines (marked mark method) = markedLines mark (lines method) := by
  fun_induction marked mark method with
  | case1 => rfl
  | case2 => rfl
  | case3 line rest nonempty ih =>
    cases rest with
    | nil => exact (nonempty rfl).elim
    | cons next rest => simp [markedLines, ih]

@[simp] theorem not_has_nil : ¬Has [] word := by simp [Has]

@[simp] theorem has_cons_iff : Has (line :: method) word ↔ word ∈ line ∨ Has method word := by
  simp [Has]

@[simp] theorem has_append_iff :
    Has (method ++ other) word ↔ Has method word ∨ Has other word := by
  simp [Has, or_and_right, exists_or]

theorem has_map_iff {f : Phrase → Phrase} {phrases : List Phrase} :
    Has (phrases.map f) word ↔ ∃ phrase ∈ phrases, word ∈ f phrase := by
  simp [Has]

theorem has_flatten_iff {methods : List Method} :
    Has methods.flatten word ↔ ∃ method ∈ methods, Has method word := by
  simp only [Has, List.mem_flatten]
  exact ⟨fun ⟨line, ⟨method, mem, inMethod⟩, inLine⟩ => ⟨method, mem, line, inMethod, inLine⟩,
    fun ⟨method, mem, line, inMethod, inLine⟩ => ⟨line, ⟨method, mem, inMethod⟩, inLine⟩⟩

theorem has_indent_iff (isName : word.isName) : Has (indent method) word ↔ Has method word := by
  rw [indent, has_map_iff]
  refine exists_congr fun line => and_congr_right fun _ => ?_
  split
  · rfl
  · exact List.mem_cons.trans (or_iff_right (Word.ne_text isName _))

theorem has_map_indented_iff (isName : word.isName) (levels : Nat) :
    Has (method.map (Phrase.indented levels)) word ↔ Has method word :=
  has_map_iff.trans
    (exists_congr fun _ => and_congr_right fun _ => Phrase.mem_indented_iff isName levels)

theorem has_marked_iff (isName : word.isName) (mark : String) :
    Has (marked mark method) word ↔ Has method word := by
  fun_induction marked mark method with
  | case1 => rfl
  | case2 => rfl
  | case3 line rest _ ih => simp [ih, Word.ne_text isName]

end

end Method

/-! ## Templates -/

def writtenValues (values : List (String × Phrase)) : List (String × String) :=
  values.map fun (name, phrase) => (name, phrase.written)

def Template.words (values : List (String × Phrase)) (template : Template) : Phrase :=
  template.flatMap fun
    | .text text => [.text text]
    | .field name => (values.lookup name).getD []

def lineWords (language : TargetLanguage) (key : String) (values : List (String × Phrase)) :
    Phrase :=
  match templateAt language key with
  | .ok (.line template) => template.words values
  | _ => []

def blockWords (language : TargetLanguage) (key : String) (values : List (String × Phrase)) :
    Method :=
  match templateAt language key with
  | .ok (.block templates) => templates.map (Template.words values)
  | _ => []

section

variable {values : List (String × Phrase)} {language : TargetLanguage} {key : String} {word : Word}

theorem lookup_writtenValues (values : List (String × Phrase)) (name : String) :
    (writtenValues values).lookup name = (values.lookup name).map Phrase.written := by
  induction values with
  | nil => rfl
  | cons first rest ih =>
    obtain ⟨other, phrase⟩ := first
    rw [writtenValues, List.map_cons, ← writtenValues, List.lookup_cons, List.lookup_cons, ih]
    split <;> rfl

/-- A template is filled with phrases as it is with what they are written as. -/
theorem Template.written_words {template : Template} {line : String}
    (h : template.fill (writtenValues values) = .ok line) :
    (template.words values).written = line := by
  obtain ⟨texts, filled, eq⟩ := Except.bind_eq_ok_iff.1 h
  obtain rfl := Except.ok.inj eq
  clear h eq
  induction template generalizing texts with
  | nil =>
    obtain rfl := Except.ok.inj filled
    rfl
  | cons piece rest ih =>
    simp only [List.mapM_cons, Except.bind_eq_ok_iff] at filled
    obtain ⟨text, first, others, filled, eq⟩ := filled
    obtain rfl := Except.ok.inj eq
    have here : Phrase.written (Template.words values [piece]) = text := by
      cases piece with
      | text shown => simpa [Template.words, fillPiece] using first
      | field name =>
        simp only [fillPiece, lookup_writtenValues] at first
        cases found : values.lookup name with
        | none => simp [found] at first
        | some phrase => simpa [Template.words, found] using first
    have split : Template.words values (piece :: rest) =
        Template.words values [piece] ++ Template.words values rest := by
      simp [Template.words]
    rw [split, Phrase.written_append, here, ih others filled, String.join_cons]

/-- The phrase of a line is written as the line. -/
theorem written_lineWords {line : String}
    (h : filledLine language key (writtenValues values) = .ok line) :
    (lineWords language key values).written = line := by
  obtain ⟨value, filled, h⟩ := Except.bind_eq_ok_iff.1 h
  rw [filledEntry_eq] at filled
  obtain ⟨entry, found, filled⟩ := Except.bind_eq_ok_iff.1 filled
  unfold lineWords
  rw [found]
  cases entry with
  | line template =>
    obtain ⟨text, written, eq⟩ := Except.bind_eq_ok_iff.1 filled
    obtain rfl := Except.ok.inj eq
    obtain rfl := Except.ok.inj h
    exact Template.written_words written
  | block templates =>
    obtain ⟨texts, -, eq⟩ := Except.bind_eq_ok_iff.1 filled
    obtain rfl := Except.ok.inj eq
    cases h
  | table entries =>
    obtain rfl := Except.ok.inj filled
    cases h

/-- The phrases of templates are written as their lines. -/
theorem lines_map_words {templates : List Template} {lines : List String}
    (h : templates.mapM (Template.fill (writtenValues values)) = .ok lines) :
    Method.lines (templates.map (Template.words values)) = lines := by
  induction templates generalizing lines with
  | nil =>
    obtain rfl := Except.ok.inj h
    rfl
  | cons template rest ih =>
    simp only [List.mapM_cons, Except.bind_eq_ok_iff] at h
    obtain ⟨line, first, others, filled, eq⟩ := h
    obtain rfl := Except.ok.inj eq
    rw [List.map_cons, Method.lines_cons, Template.written_words first, ih filled]

/-- The phrases of a block are written as its lines. -/
theorem lines_blockWords {lines : List String}
    (h : filledBlock language key (writtenValues values) = .ok lines) :
    (blockWords language key values).lines = lines := by
  obtain ⟨value, filled, h⟩ := Except.bind_eq_ok_iff.1 h
  rw [filledEntry_eq] at filled
  obtain ⟨entry, found, filled⟩ := Except.bind_eq_ok_iff.1 filled
  unfold blockWords
  rw [found]
  cases entry with
  | line template =>
    obtain ⟨text, -, eq⟩ := Except.bind_eq_ok_iff.1 filled
    obtain rfl := Except.ok.inj eq
    cases h
  | block templates =>
    obtain ⟨texts, written, eq⟩ := Except.bind_eq_ok_iff.1 filled
    obtain rfl := Except.ok.inj eq
    rw [← Except.ok.inj h, List.filterMap_map]
    exact (lines_map_words written).trans (List.filterMap_some).symm
  | table entries =>
    obtain rfl := Except.ok.inj filled
    cases h

/-- The names in a filled template are those in the values. -/
theorem Template.exists_of_mem_words {template : Template} (isName : word.isName)
    (mem : word ∈ template.words values) : ∃ value ∈ values, word ∈ value.2 := by
  obtain ⟨piece, -, mem⟩ := List.mem_flatMap.1 mem
  cases piece with
  | text shown => exact absurd (List.mem_singleton.1 mem) (Word.ne_text isName _)
  | field name =>
    cases found : values.lookup name with
    | none => simp [found] at mem
    | some phrase =>
      obtain ⟨before, after, rfl, -⟩ := List.lookup_eq_some_iff.1 found
      exact ⟨(name, phrase), by simp, by simpa [found] using mem⟩

theorem exists_of_mem_lineWords (isName : word.isName)
    (mem : word ∈ lineWords language key values) : ∃ value ∈ values, word ∈ value.2 := by
  unfold lineWords at mem
  split at mem
  · exact Template.exists_of_mem_words isName mem
  · cases mem

/-- The names in a block are those of the values of its fields. -/
theorem exists_of_has_blockWords (isName : word.isName)
    (has : (blockWords language key values).Has word) : ∃ value ∈ values, word ∈ value.2 := by
  obtain ⟨line, mem, inLine⟩ := has
  unfold blockWords at mem
  split at mem
  · obtain ⟨template, -, rfl⟩ := List.mem_map.1 mem
    exact Template.exists_of_mem_words isName inLine
  · cases mem

end

/-! ## Guards -/

def loopWords (language : TargetLanguage) (itemType : String) (sequence : Phrase) : Phrase :=
  match language with
  | .kotlin => [.text "for (", .bound "item", .text " in "] ++ sequence ++ [.text ")"]
  | .java =>
    [.text ("for (" ++ itemType ++ " "), .bound "item", .text " : "] ++ sequence ++ [.text ")"]
  | .python => [.text "for ", .bound "item", .text " in "] ++ sequence ++ [.text ":"]

def reportedWords? (language : TargetLanguage) (guard : Guard) (value : Phrase) : Option Phrase :=
  if guard.reported = .nothing then none
  else some (lineWords language ("_actual." ++ guard.reported.label) [("value", value)])

def messageWords (language : TargetLanguage) (message : String) (actual? : Option Phrase) :
    Phrase :=
  match actual? with
  | none => [.text (stringLiteral language message)]
  | some actual =>
    let fixed := stringLiteralChars language (message.toList ++ [' ', '-', ' '])
    match language with
    | .kotlin =>
      if isIdentifier actual.written then
        [.text (String.ofList fixed.dropLast ++ "$")] ++ actual ++ [.text "\""]
      else [.text (String.ofList fixed.dropLast ++ "$\x7b")] ++ actual ++ [.text "\x7d\""]
    | .java => .text (String.ofList fixed ++ " + ") :: actual
    | .python => [.text ("f" ++ String.ofList (doubleBraces fixed).dropLast ++ "\x7b")] ++ actual ++
      [.text "\x7d\""]

/-- The phrases of a guard on a value. -/
def statementWords (language : TargetLanguage) (guard : Guard) (value : Phrase)
    (itemType : String) : Method :=
  let target := if guard.element then [.bound "item"] else value
  let test := lineWords language (conditionKey language guard)
    [("value", target), ("operand", [.text (operandLiteral language guard)])]
  let inline := guard.nullable && !guard.element && hasTemplate language "_template.null_check"
  let condition :=
    if inline then
      lineWords language "_template.null_check" [("value", value), ("condition", test)]
    else test
  let message := messageWords language guard.message (reportedWords? language guard target)
  let statement :=
    blockWords language "_template.guard" [("condition", condition), ("message", message)]
  let looped :=
    if guard.element then loopWords language itemType value :: Method.indent statement
    else statement
  if guard.nullable && !inline then
    lineWords language "_template.null_block" [("value", value)] :: Method.indent looped
  else looped

section

variable {language : TargetLanguage} {guard : Guard} {value : Phrase} {itemType : String}
  {word : Word}

/-- A line that takes the given fields is written like its phrase. -/
theorem filledLine_eq {fields : List String} {key : String} (values : List (String × Phrase))
    (takes : takesLine language key fields)
    (given : ∀ name ∈ fields, (values.lookup name).isSome) :
    filledLine language key (writtenValues values) =
      .ok (lineWords language key values).written := by
  have known : ∀ name ∈ fields, ((writtenValues values).lookup name).isSome := fun name mem => by
    rw [lookup_writtenValues, Option.isSome_map]
    exact given name mem
  obtain ⟨line, filled⟩ := exists_filledLine takes known
  rw [filled, written_lineWords filled]

/-- A block that takes the given fields is written like its phrases. -/
theorem filledBlock_eq {fields : List String} {key : String} (values : List (String × Phrase))
    (takes : takesBlock language key fields)
    (given : ∀ name ∈ fields, (values.lookup name).isSome) :
    filledBlock language key (writtenValues values) =
      .ok (blockWords language key values).lines := by
  have known : ∀ name ∈ fields, ((writtenValues values).lookup name).isSome := fun name mem => by
    rw [lookup_writtenValues, Option.isSome_map]
    exact given name mem
  obtain ⟨lines, filled⟩ := exists_filledBlock takes known
  rw [filled, lines_blockWords filled]

/-- The loop over items is written as its phrase says. -/
theorem filledLine_loop (language : TargetLanguage) (itemType : String) (value : Phrase) :
    filledLine language "_template.loop" [("value", value.written), ("item_type", itemType)] =
      .ok (loopWords language itemType value).written := by
  have filled (pieces : List String) (h : filledLine language "_template.loop"
      [("value", value.written), ("item_type", itemType)] = .ok (String.join pieces))
      (eq : (String.join pieces).toList = (loopWords language itemType value).written.toList) :
      filledLine language "_template.loop" [("value", value.written), ("item_type", itemType)] =
        .ok (loopWords language itemType value).written := by
    rw [h, String.toList_inj.1 eq]
  cases language with
  | kotlin =>
    exact filled ["for (item in ", value.written, ")"] rfl (by simp [loopWords])
  | java =>
    exact filled ["for (", itemType, " item : ", value.written, ")"] rfl (by simp [loopWords])
  | python => exact filled ["for item in ", value.written, ":"] rfl (by simp [loopWords])

/-- What a guard reports is written as its phrase says. -/
theorem reportedExpression_eq (language : TargetLanguage) (guard : Guard) (value : Phrase) :
    reportedExpression language guard value.written =
      .ok ((reportedWords? language guard value).map Phrase.written) := by
  unfold reportedExpression reportedWords?
  split
  · rename_i nothing
    rw [if_pos nothing]
    rfl
  · rename_i reports
    have filled := filledLine_eq [("value", value)]
      (takesLine_report language guard.reported reports) (by simp [List.lookup_cons])
    rw [if_neg reports, show [("value", value.written)] = writtenValues [("value", value)] from rfl,
      filled]
    rfl

/-- The condition of a guard is written as its phrase says. -/
theorem guardCondition_eq (language : TargetLanguage) (guard : Guard) (value : Phrase) :
    guardCondition language guard value.written none =
      .ok (lineWords language (conditionKey language guard)
        [("value", value), ("operand", [.text (operandLiteral language guard)])]).written := by
  obtain ⟨entry, mem, key⟩ := List.mem_map.1 (conditionKey_mem language guard)
  have takes := takesLine_condition language entry mem
  rw [key] at takes
  have filled := filledLine_eq
    [("value", value), ("operand", [.text (operandLiteral language guard)])] takes
    (by simp [List.lookup_cons])
  rw [← filled]
  simp [guardCondition, writtenValues]

/-- The message of a guard is written as its phrase says. -/
theorem written_messageWords (language : TargetLanguage) (message : String)
    (actual? : Option Phrase) : (messageWords language message actual?).written =
      messageLiteral language message (actual?.map Phrase.written) := by
  cases actual? with
  | none => simp [messageWords, messageLiteral]
  | some actual =>
    cases language with
    | kotlin =>
      simp only [messageWords, messageLiteral, Option.map_some]
      split <;> simp [String.append_assoc]
    | java => simp [messageWords, messageLiteral, String.append_assoc]
    | python => simp [messageWords, messageLiteral, String.append_assoc]

/-- The lines of a guard are those of its phrases. -/
theorem statementLines_eq_lines (language : TargetLanguage) (guard : Guard) (value : Phrase)
    (itemType : String) : statementLines language guard value.written itemType none =
      .ok (statementWords language guard value itemType).lines := by
  have target : (if guard.element then "item" else value.written) =
      Phrase.written (if guard.element then [.bound "item"] else value) := by
    split <;> simp
  have check (has : hasTemplate language "_template.null_check") (condition : Phrase) :
      filledLine language "_template.null_check"
        [("value", value.written), ("condition", condition.written)] =
      .ok (lineWords language "_template.null_check"
        [("value", value), ("condition", condition)]).written :=
    filledLine_eq [("value", value), ("condition", condition)]
      (takesLine_nullCheck language has) (by simp [List.lookup_cons])
  have rejects (condition : Phrase) (actual? : Option Phrase) :
      filledBlock language "_template.guard" [("condition", condition.written),
        ("message", messageLiteral language guard.message (actual?.map Phrase.written))] =
      .ok (blockWords language "_template.guard" [("condition", condition),
        ("message", messageWords language guard.message actual?)]).lines := by
    rw [← written_messageWords]
    exact filledBlock_eq [("condition", condition),
      ("message", messageWords language guard.message actual?)] (takesBlock_guard language)
      (by simp [List.lookup_cons])
  have block : filledLine language "_template.null_block" [("value", value.written)] =
      .ok (lineWords language "_template.null_block" [("value", value)]).written :=
    filledLine_eq [("value", value)] (takesLine_nullBlock language)
      (by simp [List.lookup_cons])
  unfold statementLines statementWords
  simp only [target, guardCondition_eq, reportedExpression_eq]
  cases guard.element <;> cases guard.nullable <;>
    cases has : hasTemplate language "_template.null_check" <;>
    simp [bind, Except.bind, pure, Except.pure, rejects, block, filledLine_loop, check, has]

/-! ### Names -/

theorem mem_loopWords_iff (isName : word.isName) :
    word ∈ loopWords language itemType value ↔ word = .bound "item" ∨ word ∈ value := by
  cases language <;> simp [loopWords, Word.ne_text isName]

/-- The names in a message are those of the reported value. -/
theorem mem_of_mem_messageWords {message : String} {actual? : Option Phrase} (isName : word.isName)
    (mem : word ∈ messageWords language message actual?) : ∃ actual ∈ actual?, word ∈ actual := by
  cases actual? with
  | none => simp [messageWords, Word.ne_text isName] at mem
  | some actual =>
    refine ⟨actual, rfl, ?_⟩
    cases language with
    | kotlin =>
      simp only [messageWords] at mem
      split at mem <;> simpa [Word.ne_text isName] using mem
    | java | python => simpa [messageWords, Word.ne_text isName] using mem

/-- The names in the lines of a guard are those of the value, and that of the variable of the loop
over its items. -/
theorem mem_or_of_has_statementWords (isName : word.isName)
    (has : (statementWords language guard value itemType).Has word) :
    word ∈ value ∨ (guard.element ∧ word = .bound "item") := by
  unfold statementWords at has
  extract_lets target test inline condition message statement looped at has
  have ofTarget (mem : word ∈ target) : word ∈ value ∨ (guard.element ∧ word = .bound "item") := by
    unfold target at mem
    split at mem
    · exact .inr ⟨‹_›, List.mem_singleton.1 mem⟩
    · exact .inl mem
  have ofTest (mem : word ∈ test) : word ∈ target := by
    simpa [Word.ne_text isName] using exists_of_mem_lineWords isName mem
  have ofCondition (mem : word ∈ condition) : word ∈ value ∨ word ∈ target := by
    unfold condition at mem
    split at mem
    · have given : word ∈ value ∨ word ∈ test := by
        simpa using exists_of_mem_lineWords isName mem
      exact given.imp_right ofTest
    · exact .inr (ofTest mem)
  have ofMessage (mem : word ∈ message) : word ∈ target := by
    obtain ⟨actual, reported, inActual⟩ := mem_of_mem_messageWords isName mem
    unfold reportedWords? at reported
    split at reported
    · cases reported
    · obtain rfl := Option.some.inj reported
      simpa using exists_of_mem_lineWords isName inActual
  have ofStatement (has : Method.Has statement word) : word ∈ value ∨ word ∈ target := by
    have given : word ∈ condition ∨ word ∈ message := by
      simpa using exists_of_has_blockWords isName has
    exact given.elim ofCondition fun mem => .inr (ofMessage mem)
  have ofLooped (has : Method.Has looped word) :
      word ∈ value ∨ (guard.element ∧ word = .bound "item") := by
    unfold looped at has
    split at has
    · rcases Method.has_cons_iff.1 has with mem | has
      · exact ((mem_loopWords_iff isName).1 mem).symm.imp_right fun eq => ⟨‹_›, eq⟩
      · exact (ofStatement ((Method.has_indent_iff isName).1 has)).elim .inl ofTarget
    · exact (ofStatement has).elim .inl ofTarget
  split at has
  · rcases Method.has_cons_iff.1 has with mem | has
    · exact .inl (by simpa using exists_of_mem_lineWords isName mem)
    · exact ofLooped ((Method.has_indent_iff isName).1 has)
  · exact ofLooped has

/-- A guard on items binds the variable of its loop. -/
theorem has_item_statementWords (element : guard.element) :
    (statementWords language guard value itemType).Has (.bound "item") := by
  unfold statementWords
  extract_lets target test inline condition message statement looped
  have has : Method.Has looped (.bound "item") := by
    unfold looped
    rw [if_pos element, Method.has_cons_iff]
    exact .inl ((mem_loopWords_iff rfl).2 (.inl rfl))
  split
  · exact Method.has_cons_iff.2 (.inr ((Method.has_indent_iff rfl).2 has))
  · exact has

end

end SchemaClasses
