import SchemaClasses.Emit.Check
import SchemaClasses.Proofs.Emit.Identifiers
import SchemaClasses.Proofs.Text.Escaped

/-!
# Literals of texts

The literal of a text is the escaped text between quotation marks, in Kotlin with a backslash before
every dollar sign. What a language takes it for is decided by the tokens that it reads from left to
right: characters that stand for themselves, escapes, and expressions whose value is put in their
place. Each character is written as whole tokens, whatever stands around it, so a text is read one
character after the other.

The escapes of the three languages are not the same. Kotlin has none for a form feed by a letter.
Python does not join two units of UTF-16 to one character, so a text with a character that has two
of them is read as a longer one.

## Main definitions

* `tokens?`, `literal?`: what the tokens of a source denote, and those of a literal.
* `Java.readText?`: the UTF-16 units that a literal denotes in Java, after the escapes of units are
  translated.
* `Kotlin.readText?`, `Python.readText?`: the codes and the expressions of a literal.
* `Kotlin.IsTemplateExpression`, `Python.isFieldExpression`: the texts that are read as an
  expression.

## Main statements

* `Java.readText?_stringLiteral`: a literal denotes its text in Java.
* `Kotlin.readText?_template_iff`: when literals of texts and messages denote them in Kotlin.
* `Python.readText?_field_iff`: when they do in Python.
* `Kotlin.interpolates_of_reported`, `Python.isFieldExpression_of_reported`: what checks report can
  stand in a message.
-/

namespace SchemaClasses

open Text

/-! ## Reading by tokens -/

section Tokens

variable {α β : Type}

/-- What the tokens of a source denote. The first element of a token and what follows it give what
the token denotes, and how many more elements it has. So many elements are still to be passed over
as `skip` says. -/
def tokens? (token? : α → List α → Option (List β × Nat)) : (skip : Nat) → List α → Option (List β)
  | 0, [] => some []
  | _ + 1, [] => none
  | skip + 1, _ :: rest => tokens? token? skip rest
  | 0, first :: rest =>
    (token? first rest).bind fun (items, more) => (tokens? token? more rest).map (items ++ ·)

def unmarked [DecidableEq α] (mark : α) (token? : α → List α → Option (List β × Nat)) (first : α)
    (rest : List α) : Option (List β × Nat) :=
  if first = mark then none else token? first rest

/-- What a literal denotes, from the mark at its beginning to the one at its end. A mark in between
that does not belong to another token would end the literal. -/
def literal? [DecidableEq α] (mark : α) (token? : α → List α → Option (List β × Nat)) :
    List α → Option (List β)
  | [] => none
  | first :: rest =>
    if first = mark ∧ rest.getLast? = some mark then tokens? (unmarked mark token?) 0 rest.dropLast
    else none

/-- Wherever it stands, what is written is read as the items. -/
def Reads (token? : α → List α → Option (List β × Nat)) (written : List α) (items : List β) :
    Prop :=
  ∀ rest, tokens? token? 0 (written ++ rest) = (tokens? token? 0 rest).map (items ++ ·)

theorem tokens?_length (token? : α → List α → Option (List β × Nat)) (others rest : List α) :
    tokens? token? others.length (others ++ rest) = tokens? token? 0 rest := by
  induction others with
  | nil => rfl
  | cons other others ih => exact ih

variable {token? : α → List α → Option (List β × Nat)}

theorem Reads.token {first : α} {others : List α} {items : List β}
    (h : ∀ rest, token? first (others ++ rest) = some (items, others.length)) :
    Reads token? (first :: others) items := fun rest => by
  rw [List.cons_append, tokens?, h, Option.bind_some]
  change (tokens? token? others.length (others ++ rest)).map (items ++ ·) = _
  rw [tokens?_length]

theorem Reads.append {written more : List α} {items others : List β}
    (first : Reads token? written items) (second : Reads token? more others) :
    Reads token? (written ++ more) (items ++ others) := fun rest => by
  rw [List.append_assoc, first, second, Option.map_map]
  simp only [Function.comp_def, List.append_assoc]

/-- A text whose characters are read one by one is read as a whole. -/
theorem Reads.flatMap {γ : Type} {text : List γ} {write : γ → List α} {read : γ → List β}
    (h : ∀ c ∈ text, Reads token? (write c) (read c)) :
    Reads token? (text.flatMap write) (text.flatMap read) := by
  induction text with
  | nil => exact fun rest => (Option.map_id_apply).symm
  | cons c text ih =>
    obtain ⟨first, others⟩ := List.forall_mem_cons.1 h
    exact first.append (ih others)

theorem Reads.eq {written : List α} {items : List β} (h : Reads token? written items) :
    tokens? token? 0 written = some items := by
  simpa [tokens?] using h []

/-- A literal denotes what stands between its marks. -/
theorem literal?_eq [DecidableEq α] (mark : α) (inner : List α) :
    literal? mark token? (mark :: (inner ++ [mark])) = tokens? (unmarked mark token?) 0 inner := by
  rw [literal?, if_pos ⟨rfl, List.getLast?_concat⟩, List.dropLast_concat]

theorem Reads.unmarked [DecidableEq α] {mark first : α} {others : List α} {items : List β}
    (noMark : first ≠ mark)
    (h : ∀ rest, token? first (others ++ rest) = some (items, others.length)) :
    Reads (unmarked mark token?) (first :: others) items :=
  .token fun rest => by rw [SchemaClasses.unmarked, if_neg noMark, h]

end Tokens

/-! ## Java -/

namespace Java

/-- The units that a backslash and what follows it denote before a source is split into tokens, and
how many of the characters take part. Letters u and four digits write a unit; any other character
stands for itself, a backslash included. -/
def unitAfterBackslash? : List Char → Option (List Nat × Nat)
  | [] => some (['\\'.toNat], 0)
  | 'u' :: rest =>
    let letters := (rest.takeWhile (· = 'u')).length
    let digits := (rest.drop letters).take 4
    if digits.length = 4 then
      (hexNumber? digits).map fun unit => ([unit], 1 + letters + 4)
    else none
  | c :: _ => some ('\\'.toNat :: utf16Units c, 1)

/-- The UTF-16 units that a character denotes before a source is split into tokens. -/
def unit? (c : Char) (rest : List Char) : Option (List Nat × Nat) :=
  if c = '\\' then unitAfterBackslash? rest else some (utf16Units c, 0)

def escapeLetters : List (Char × Char) :=
  [('b', '\x08'), ('t', '\t'), ('n', '\n'), ('f', '\x0c'), ('r', '\r'), ('"', '"'), ('\'', '\''),
    ('\\', '\\')]

/-- What a token inside a literal denotes. A line does not end in a literal. -/
def token? (unit : Nat) (rest : List Nat) : Option (List Nat × Nat) :=
  if unit = '\\'.toNat then
    (rest.head?.bind fun second => escapeLetters.find? (·.1.toNat = second)).map fun (_, c) =>
      ([c.toNat], 1)
  else if unit = '\n'.toNat ∨ unit = '\r'.toNat then none
  else some ([unit], 0)

def readText? (source : List Char) : Option (List Nat) :=
  (tokens? unit? 0 source).bind (literal? '"'.toNat token?)

theorem reads_char {c : Char} (noBackslash : c ≠ '\\') : Reads unit? [c] (utf16Units c) :=
  .token fun rest => by rw [unit?, if_neg noBackslash]; rfl

/-- The escape of a unit is read as the unit. -/
theorem reads_unitEscape {unit : Nat} (h : unit < 0x10000) :
    Reads unit? (unitEscape unit) [unit] := by
  obtain ⟨a, b, c, d, written, number, hex⟩ := exists_unitEscape h
  have noLetter : a ≠ 'u' := by
    obtain ⟨value, small, rfl⟩ := hex a List.mem_cons_self
    exact (by decide : ∀ value < 16, value.digitChar ≠ 'u') value small
  rw [written]
  refine .token fun rest => ?_
  simp only [unit?, unitAfterBackslash?, List.cons_append, List.nil_append, ↓reduceIte,
    List.takeWhile_cons, noLetter, decide_false, Bool.false_eq_true, List.length_nil,
    List.drop_zero, List.take_succ_cons, List.take_zero, List.length_cons, number, Option.map_some]

/-- A unit that is no mark and no backslash and ends no line denotes itself in a literal. -/
theorem reads_unit {unit : Nat} (other : unit ∉ ['"', '\\', '\n', '\r'].map Char.toNat) :
    Reads (unmarked '"'.toNat token?) [unit] [unit] := by
  simp only [List.map_cons, List.map_nil, List.mem_cons, List.not_mem_nil, or_false,
    not_or] at other
  refine .unmarked other.1 fun rest => ?_
  rw [token?, if_neg other.2.1, if_neg (not_or.2 other.2.2)]
  rfl

/-- So do the units of a character that is none of these. -/
theorem reads_utf16Units {c : Char} (other : c ∉ ['"', '\\', '\n', '\r']) :
    Reads (unmarked '"'.toNat token?) (utf16Units c) (utf16Units c) := by
  have each : Reads (unmarked '"'.toNat token?) ((utf16Units c).flatMap ([·]))
      ((utf16Units c).flatMap ([·])) := .flatMap fun unit mem => by
    refine reads_unit fun same => ?_
    rcases mem_utf16Units mem with rfl | surrogate
    · exact other ((List.mem_map_of_injective
        (Function.LeftInverse.injective Char.ofNat_toNat)).1 same)
    · revert same
      simp
      omega
  rwa [List.flatMap_singleton'] at each

/-- A character of an escaped text is read as units, which denote it in a literal. -/
theorem exists_reads {c : Char} {written : List Char} (escapes : Text.Escapes c written) :
    ∃ units, Reads unit? written units ∧
      Reads (unmarked '"'.toNat token?) units (utf16Units c) := by
  cases escapes with
  | letter mem =>
    simp only [Text.escapeLetters, List.mem_cons, List.not_mem_nil, or_false,
      Prod.mk.injEq] at mem
    rcases mem with ⟨rfl, rfl⟩ | ⟨rfl, rfl⟩ | ⟨rfl, rfl⟩ | ⟨rfl, rfl⟩ | ⟨rfl, rfl⟩ | ⟨rfl, rfl⟩ |
        ⟨rfl, rfl⟩ <;>
      exact ⟨_, .token fun _ => rfl, .unmarked (by decide) fun _ => rfl⟩
  | plain visible noQuote noBackslash =>
    refine ⟨_, reads_char noBackslash, reads_utf16Units ?_⟩
    rintro mem
    simp only [List.mem_cons, List.not_mem_nil, or_false] at mem
    rcases mem with rfl | rfl | rfl | rfl
    · exact noQuote rfl
    · exact noBackslash rfl
    · exact absurd visible (by decide)
    · exact absurd visible (by decide)
  | units noLetter =>
    have units : Reads unit? ((utf16Units c).flatMap unitEscape) ((utf16Units c).flatMap ([·])) :=
      .flatMap fun unit mem => reads_unitEscape (lt_of_mem_utf16Units mem)
    rw [List.flatMap_singleton'] at units
    exact ⟨_, units, reads_utf16Units fun mem => noLetter ((by decide :
      ['"', '\\', '\n', '\r'] ⊆ Text.escapeLetters.map (·.2)) mem)⟩

/-- The literal of a text denotes its units, whatever characters the text has. -/
theorem readText?_stringLiteral (text : String) :
    readText? (stringLiteral .java text).toList = some (utf16 text.toList) := by
  -- The characters are read as units, and then the units between the marks as the text.
  choose units first second using fun c => exists_reads (escapes_escapedChar c)
  have quote : Reads unit? ['"'] ['"'.toNat] := reads_char (by decide)
  have translated := (quote.append
    ((Reads.flatMap fun c _ => first c : Reads unit? (text.toList.flatMap escapedChar)
      (text.toList.flatMap units)).append quote)).eq
  have denoted : Reads (unmarked '"'.toNat token?) (text.toList.flatMap units)
      (utf16 text.toList) := .flatMap fun c _ => second c
  rw [stringLiteral, String.toList_ofList]
  change (tokens? unit? 0 (['"'] ++ (text.toList.flatMap escapedChar ++ ['"']))).bind _ = _
  rw [translated, Option.bind_some, List.singleton_append, literal?_eq, denoted.eq]

end Java

/-! ## Codes, escapes and expressions -/

/-- What a literal is made of: the codes of a text, and expressions whose value stands in it. -/
inductive TextItem where
  | code (n : Nat)
  | expression (source : List Char)
deriving DecidableEq

def codes (units : List Nat) : List TextItem := units.map .code

/-- What an escape denotes, from what follows its backslash, and how many characters that are. Some
letters stand for a character, others write a code with so many digits after them. -/
def escape? (letters : List (Char × Char)) (widths : List (Char × Nat)) :
    List Char → Option (List TextItem × Nat)
  | [] => none
  | c :: rest =>
    match widths.lookup c with
    | some width =>
      let digits := rest.take width
      if digits.length = width then
        ((hexNumber? digits).filter (· < 0x110000)).map fun n => ([.code n], 1 + width)
      else none
    | none => (letters.lookup c).map fun c => ([.code c.toNat], 1)

section Escapes

variable {token? : Char → List Char → Option (List TextItem × Nat)}
  {letters : List (Char × Char)} {widths : List (Char × Nat)}

/-- The escapes of units are read as the units. -/
theorem reads_unitEscapes (backslash : ∀ rest, token? '\\' rest = escape? letters widths rest)
    (four : widths.lookup 'u' = some 4) {units : List Nat}
    (small : ∀ unit ∈ units, unit < 0x10000) :
    Reads (unmarked '"' token?) (units.flatMap unitEscape) (codes units) := by
  rw [codes, ← List.flatMap_pure_eq_map]
  refine .flatMap fun unit mem => ?_
  obtain ⟨a, b, c, d, written, number, -⟩ := exists_unitEscape (small unit mem)
  rw [written]
  refine .unmarked (by decide) fun rest => ?_
  have below : unit < 0x110000 := by have := small unit mem; omega
  simp [backslash, escape?, four, number, below]

/-- A character of an escaped text is read as its units, if the language has the letter that stands
for it. What the language writes for dollar signs and braces is a matter of its own. -/
theorem reads_escape (backslash : ∀ rest, token? '\\' rest = escape? letters widths rest)
    (four : widths.lookup 'u' = some 4) {fit : Char → List Char}
    (fit_eq : ∀ x ∉ ['$', '\x7b', '\x7d'], fit x = [x]) {c : Char} {written : List Char}
    (escapes : Text.Escapes c written)
    (known : ∀ letter, (letter, c) ∈ Text.escapeLetters →
      letters.lookup letter = some c ∧ widths.lookup letter = none)
    (plain : Visible c → c ≠ '"' → c ≠ '\\' → Reads (unmarked '"' token?) (fit c) [.code c.toNat]) :
    Reads (unmarked '"' token?) (written.flatMap fit) (codes (utf16Units c)) := by
  cases escapes with
  | @letter letter _ mem =>
    obtain ⟨found, noWidth⟩ := known letter mem
    obtain ⟨fixed, single⟩ := (by decide : ∀ p ∈ Text.escapeLetters,
      p.1 ∉ ['$', '\x7b', '\x7d'] ∧ p.2.toNat < 0x10000) _ mem
    rw [(utf16Units_eq_iff c).2 single, List.flatMap_cons, fit_eq '\\' (by decide),
      List.flatMap_singleton, fit_eq letter fixed]
    exact .unmarked (by decide) fun rest => by simp [backslash, escape?, noWidth, found, codes]
  | plain visible noQuote noBackslash =>
    rw [(utf16Units_eq_iff c).2 (by have := visible.toNat_bounds; omega), List.flatMap_singleton]
    exact plain visible noQuote noBackslash
  | units noLetter =>
    have same : ((utf16Units c).flatMap unitEscape).flatMap fit =
        (utf16Units c).flatMap unitEscape := by
      refine (List.flatMap_congr fun x mem => fit_eq x ?_).trans (List.flatMap_singleton' _)
      obtain ⟨unit, inside, mem⟩ := List.mem_flatMap.1 mem
      exact not_mem_of_mem_unitEscape (lt_of_mem_utf16Units inside) mem
    rw [same]
    exact reads_unitEscapes backslash four fun unit => lt_of_mem_utf16Units

end Escapes

theorem notMem_of_all {p : Char → Bool} {marks : List Char} (others : marks.all (!p ·)) {c : Char}
    (h : p c) : c ∉ marks := fun mem => by
  have other := List.all_eq_true.1 others c mem
  rw [h] at other
  cases other

/-! ## Kotlin -/

namespace Kotlin

def escapeLetters : List (Char × Char) :=
  [('t', '\t'), ('b', '\x08'), ('n', '\n'), ('r', '\r'), ('\'', '\''), ('"', '"'), ('\\', '\\'),
    ('$', '$')]

inductive Mode where
  /-- Code in which so many braces are open. -/
  | code (braces : Nat)
  /-- Code after a slash. -/
  | slash
  /-- What one or two quotation marks begin. -/
  | opening (marks : Nat)
  /-- A text within a line. -/
  | line
  /-- A text between three quotation marks, after so many marks. -/
  | raw (marks : Nat)
  /-- A text after a dollar sign. -/
  | dollar
  /-- An escape. -/
  | escape
  /-- A character between apostrophes. -/
  | character
  /-- A name between back quotes. -/
  | name
  /-- A comment up to the end of the line. -/
  | remark
  /-- A comment that may hold others, after a character. -/
  | comment (last : Char)

/-- What stands after a character of a text within a line, and what the text stands in. -/
def Mode.afterLine (outer : List Mode) (c : Char) : Option (List Mode) :=
  if c = '"' then some outer
  else if c = '\\' then some (.escape :: .line :: outer)
  else if c = '$' then some (.dollar :: .line :: outer)
  else if c = '\n' ∨ c = '\r' then none
  else some (.line :: outer)

/-- What stands after a character of code, and what the code stands in. -/
def Mode.afterCode (braces : Nat) (outer : List Mode) (c : Char) : List Mode :=
  let code := .code braces :: outer
  match c with
  | '\x7b' => .code (braces + 1) :: outer
  | '\x7d' => if braces = 0 then outer else .code (braces - 1) :: outer
  | '"' => .opening 1 :: code
  | '\'' => .character :: code
  | '\x60' => .name :: code
  | '/' => .slash :: code
  | _ => code

/-- What a character stands in and what that stands in, after another character. -/
def Mode.after : List Mode → Char → Option (List Mode)
  | [], _ => none
  | .code braces :: outer, c => some (afterCode braces outer c)
  | .slash :: outer, c =>
    if c = '/' then some (.remark :: outer)
    else if c = '*' then some (.comment ' ' :: outer)
    else after outer c
  | .opening marks :: outer, c =>
    if c = '"' then some (if marks = 1 then .opening 2 :: outer else .raw 0 :: outer)
    else if marks = 1 then afterLine outer c
    else after outer c
  | .line :: outer, c => afterLine outer c
  | .raw marks :: outer, c =>
    if c = '"' then some (.raw (marks + 1) :: outer)
    else if 3 ≤ marks then after outer c
    else if c = '$' then some (.dollar :: .raw 0 :: outer)
    else some (.raw 0 :: outer)
  | .dollar :: outer, c => if c = '\x7b' then some (.code 0 :: outer) else after outer c
  | .escape :: outer, c => if c = '\n' ∨ c = '\r' then none else some outer
  | .character :: outer, c =>
    if c = '\'' then some outer
    else if c = '\\' then some (.escape :: .character :: outer)
    else if c = '\n' ∨ c = '\r' then none
    else some (.character :: outer)
  | .name :: outer, c =>
    if c = '\x60' then some outer
    else if c = '\n' ∨ c = '\r' then none
    else some (.name :: outer)
  | .remark :: outer, c => some (if c = '\n' ∨ c = '\r' then outer else .remark :: outer)
  | .comment last :: outer, c =>
    if last = '*' ∧ c = '/' then some outer
    else if last = '/' ∧ c = '*' then some (.comment ' ' :: .comment ' ' :: outer)
    else some (.comment c :: outer)

/-- The expression that a source begins with, up to the brace that closes its template. -/
def expression? : List Mode → List Char → Option (List Char)
  | _, [] => none
  | modes, c :: rest =>
    match Mode.after modes c with
    | none => none
    | some [] => some []
    | some (mode :: outer) => (expression? (mode :: outer) rest).map (c :: ·)

/-- The brace after the text closes a template that the text stands in. -/
def IsTemplateExpression (source : List Char) : Prop :=
  expression? [.code 0] (source ++ ['\x7d']) = some source

instance (source : List Char) : Decidable (IsTemplateExpression source) :=
  inferInstanceAs (Decidable (_ = _))

/-- The name of a variable as an expression. A reserved word is a name between back quotes, except
for the one that denotes the object itself. -/
def variableNamed (name : List Char) : List Char :=
  if String.ofList name ∈ TargetLanguage.kotlin.keywords ∧ name ≠ "this".toList then
    '\x60' :: (name ++ ['\x60'])
  else name

/-- What a dollar sign and what follows it denote: an expression between braces, a name in ASCII
characters, or the sign. -/
def template? : List Char → Option (List TextItem × Nat)
  | [] => some ([.code '$'.toNat], 0)
  | c :: rest =>
    if c = '\x7b' then
      (expression? [.code 0] rest).map fun source => ([.expression source], source.length + 2)
    else if beginsIdentifier c then
      let others := rest.takeWhile continuesIdentifier
      some ([.expression (variableNamed (c :: others))], others.length + 1)
    else some ([.code '$'.toNat], 0)

def token? (c : Char) (rest : List Char) : Option (List TextItem × Nat) :=
  if c = '\\' then escape? escapeLetters [('u', 4)] rest
  else if c = '$' then template? rest
  else if c = '\n' ∨ c = '\r' then none
  else some (codes (utf16Units c), 0)

def readText? (source : List Char) : Option (List TextItem) := literal? '"' token? source

/-- A dollar sign as it stands in a literal, or another character of an escaped text. -/
def fit (c : Char) : List Char := if c = '$' then ['\\', '$'] else [c]

theorem stringLiteralChars_eq (text : List Char) : stringLiteralChars .kotlin text =
    '"' :: (text.flatMap (fun c => (escapedChar c).flatMap fit) ++ ['"']) := by
  change escapeDollars ('"' :: (text.flatMap escapedChar ++ ['"'])) = _
  rw [← List.flatMap_assoc]
  exact congrArg ('"' :: ·) List.flatMap_append

/-- A character other than a form feed is read as its units. -/
theorem reads_escapedChar {c : Char} (noFeed : c ≠ '\x0c') :
    Reads (unmarked '"' token?) ((escapedChar c).flatMap fit) (codes (utf16Units c)) := by
  refine reads_escape (fun _ => rfl) rfl (fun x other => if_neg fun dollar => other ?_)
    (escapes_escapedChar c) (fun letter mem => ?_) fun visible noQuote noBackslash => ?_
  · exact List.mem_cons.2 (.inl dollar)
  · revert noFeed
    exact (by decide : ∀ p ∈ Text.escapeLetters, p.2 ≠ '\x0c' →
      escapeLetters.lookup p.1 = some p.2 ∧ [('u', 4)].lookup p.1 = none) _ mem
  · split
    · rename_i dollar
      rw [dollar]
      exact .unmarked (by decide) fun _ => rfl
    · rename_i noDollar
      have noBreak : ¬(c = '\n' ∨ c = '\r') := by
        rintro (rfl | rfl) <;> exact absurd visible (by decide)
      refine .unmarked noQuote fun rest => ?_
      rw [token?, if_neg noBackslash, if_neg noDollar, if_neg noBreak,
        (utf16Units_eq_iff c).2 (by have := visible.toNat_bounds; omega)]
      rfl

/-- A literal with a form feed is not read. -/
theorem tokens?_eq_none {text : List Char} (feed : '\x0c' ∈ text) (rest : List Char) :
    tokens? (unmarked '"' token?) 0
      (text.flatMap (fun c => (escapedChar c).flatMap fit) ++ rest) = none := by
  obtain ⟨before, after, rfl, first⟩ := List.eq_append_cons_of_mem feed
  have read : Reads (unmarked '"' token?) (before.flatMap fun c => (escapedChar c).flatMap fit)
      (before.flatMap fun c => codes (utf16Units c)) :=
    .flatMap fun c mem => reads_escapedChar (ne_of_mem_of_not_mem mem first)
  rw [List.flatMap_append, List.append_assoc, read]
  rfl

/-- An expression that a template can hold as it is: the name of a variable, or a text that is read
as an expression between braces. -/
def Interpolates (source : String) : Prop :=
  if isIdentifier source then
    isPlainIdentifier source.toList ∧ (source ∈ TargetLanguage.kotlin.keywords → source = "this")
  else IsTemplateExpression source.toList

def templateOf (source : String) : List Char :=
  if isIdentifier source then '$' :: source.toList
  else '$' :: '\x7b' :: (source.toList ++ ['\x7d'])

/-- A template with braces holds the source if the last brace is the one that closes it. -/
theorem tokens?_brace (source : List Char) :
    tokens? (unmarked '"' token?) 0 ('$' :: '\x7b' :: (source ++ ['\x7d'])) =
      some [.expression source] ↔ IsTemplateExpression source := by
  have first (rest : List Char) : unmarked '"' token? '$' ('\x7b' :: rest) =
      (expression? [.code 0] rest).map fun source =>
        ([.expression source], source.length + 2) := rfl
  rw [tokens?, first, IsTemplateExpression]
  cases expression? [.code 0] (source ++ ['\x7d']) with
  | none => simp
  | some other =>
    simp only [Option.map_some, Option.bind_some, Option.map_eq_some_iff, Option.some.injEq]
    constructor
    · rintro ⟨items, -, same⟩
      simpa using (List.cons.inj same).1
    · rintro rfl
      have all := tokens?_length (unmarked '"' token?) ('\x7b' :: (other ++ ['\x7d'])) []
      rw [List.append_nil, List.length_cons, List.length_append] at all
      exact ⟨[], all, rfl⟩

/-- A name stands without back quotes if it is no reserved word, or the one that denotes the
object. -/
theorem variableNamed_eq_iff {name source : List Char} {c : Char} (begins : beginsIdentifier c) :
    variableNamed name = c :: source ↔ name = c :: source ∧
      (String.ofList name ∈ TargetLanguage.kotlin.keywords → name = "this".toList) := by
  unfold variableNamed
  split
  · rename_i reserved
    constructor
    · intro same
      rw [← (List.cons.inj same).1] at begins
      exact absurd begins (by decide)
    · exact fun ⟨_, this⟩ => absurd (this reserved.1) reserved.2
  · rename_i free
    exact (and_iff_left fun reserved => by_contra fun other => free ⟨reserved, other⟩).symm

/-- A dollar sign and a name are one expression if the name is an identifier throughout. -/
theorem tokens?_name {c : Char} (begins : beginsIdentifier c) (rest : List Char) :
    tokens? (unmarked '"' token?) 0 ('$' :: c :: rest) = some [.expression (c :: rest)] ↔
      isPlainIdentifier (c :: rest) ∧
        (String.ofList (c :: rest) ∈ TargetLanguage.kotlin.keywords →
          c :: rest = "this".toList) := by
  have noBrace : c ≠ '\x7b' := fun same => absurd (same ▸ begins) (by decide)
  have first : unmarked '"' token? '$' (c :: rest) =
      some ([.expression (variableNamed (c :: rest.takeWhile continuesIdentifier))],
        (rest.takeWhile continuesIdentifier).length + 1) := by
    change template? (c :: rest) = _
    rw [template?, if_neg noBrace, if_pos begins]
  have plain : isPlainIdentifier (c :: rest) ↔ rest.takeWhile continuesIdentifier = rest := by
    rw [isPlainIdentifier, begins, Bool.true_and, List.all_eq_true, List.takeWhile_eq_self_iff]
  rw [tokens?, first, Option.bind_some, plain]
  constructor
  · intro same
    obtain ⟨items, -, same⟩ := Option.map_eq_some_iff.1 same
    obtain ⟨same, reserved⟩ :=
      (variableNamed_eq_iff begins).1 (TextItem.expression.inj (List.cons.inj same).1)
    rw [same] at reserved
    exact ⟨(List.cons.inj same).2, reserved⟩
  · rintro ⟨all, reserved⟩
    have named : variableNamed (c :: rest) = c :: rest :=
      (variableNamed_eq_iff begins).2 ⟨rfl, reserved⟩
    have skipped := tokens?_length (unmarked '"' token?) (c :: rest) []
    rw [List.append_nil, List.length_cons] at skipped
    simp only [all, named, skipped]
    rfl

/-- A template holds an expression if the expression can stand in it. -/
theorem tokens?_templateOf (source : String) :
    tokens? (unmarked '"' token?) 0 (templateOf source) = some [.expression source.toList] ↔
      Interpolates source := by
  unfold templateOf Interpolates
  split
  · rename_i valid
    obtain ⟨c, rest, chars, begins⟩ := Java.exists_of_isIdentifier valid
    rw [chars, tokens?_name begins, ← chars, String.ofList_toList, String.toList_inj]
  · exact tokens?_brace source.toList

theorem messageLiteral_eq (message actual : String) :
    (messageLiteral .kotlin message (some actual)).toList =
      '"' :: (((message ++ " - ").toList.flatMap (fun c => (escapedChar c).flatMap fit) ++
        templateOf actual) ++ ['"']) := by
  have fixed : message.toList ++ [' ', '-', ' '] = (message ++ " - ").toList := by
    rw [String.toList_append]
    rfl
  unfold messageLiteral templateOf
  simp only [fixed, stringLiteralChars_eq]
  rw [← List.cons_append, List.dropLast_concat]
  split <;> simp [String.toList_append, String.toList_ofList]

/-- Literals of texts and messages are read as written, the latter with one expression at the end:
exactly when they hold no form feed, and the expression can stand in a template. -/
theorem readText?_template_iff (text message actual : String) :
    (readText? (stringLiteral .kotlin text).toList = some (codes (utf16 text.toList)) ↔
      '\x0c' ∉ text.toList) ∧
    (readText? (messageLiteral .kotlin message (some actual)).toList =
        some (codes (utf16 (message ++ " - ").toList) ++ [.expression actual.toList]) ↔
      '\x0c' ∉ message.toList ∧ Interpolates actual) := by
  have reads {text : List Char} (noFeed : '\x0c' ∉ text) : Reads (unmarked '"' token?)
      (text.flatMap fun c => (escapedChar c).flatMap fit) (codes (utf16 text)) := by
    rw [codes, utf16, List.map_flatMap]
    exact .flatMap fun c mem => reads_escapedChar (ne_of_mem_of_not_mem mem noFeed)
  constructor
  · rw [stringLiteral, String.toList_ofList, stringLiteralChars_eq, readText?, literal?_eq]
    constructor
    · intro read feed
      rw [← List.append_nil (text.toList.flatMap _), tokens?_eq_none feed] at read
      cases read
    · exact fun noFeed => (reads noFeed).eq
  · have kept : '\x0c' ∈ (message ++ " - ").toList ↔ '\x0c' ∈ message.toList := by
      simp [String.toList_append]
    rw [messageLiteral_eq, readText?, literal?_eq]
    by_cases feed : '\x0c' ∈ message.toList
    · rw [tokens?_eq_none (kept.2 feed)]
      simp [feed]
    · rw [reads (mt kept.1 feed), ← tokens?_templateOf, and_iff_right feed]
      constructor
      · intro same
        obtain ⟨items, read, same⟩ := Option.map_eq_some_iff.1 same
        rw [read, List.append_cancel_left same]
      · intro read
        rw [read, Option.map_some]

/-- A form feed is written by a letter that stands for nothing. -/
theorem readText?_formFeed : readText? (stringLiteral .kotlin "\x0c").toList = none := by decide

/-! ### What checks report -/

def codeMarks : List Char := ['\x7b', '\x7d', '"', '\'', '\x60', '/']

/-- Plain code at the beginning of an expression belongs to it. -/
theorem expression?_append {word : List Char} (plain : ∀ c ∈ word, c ∉ codeMarks)
    (rest : List Char) :
    expression? [.code 0] (word ++ rest) = (expression? [.code 0] rest).map (word ++ ·) := by
  induction word with
  | nil => exact Option.map_id_apply.symm
  | cons c word ih =>
    obtain ⟨noMark, others⟩ := List.forall_mem_cons.1 plain
    have stays : Mode.after [.code 0] c = some [.code 0] := by
      simp only [codeMarks, List.mem_cons, List.not_mem_nil, or_false, not_or] at noMark
      unfold Mode.after Mode.afterCode
      split <;> simp_all
    simp only [List.cons_append, expression?, stays, ih others, Option.map_map]
    rfl

/-- So does a name between back quotes. -/
theorem expression?_name {word : List Char} (plain : ∀ c ∈ word, c ∉ ['\x60', '\n', '\r'])
    (rest : List Char) : expression? [.code 0] ('\x60' :: (word ++ '\x60' :: rest)) =
      (expression? [.code 0] rest).map fun source => '\x60' :: (word ++ '\x60' :: source) := by
  have inside : expression? [.name, .code 0] (word ++ '\x60' :: rest) =
      (expression? [.code 0] rest).map fun source => word ++ '\x60' :: source := by
    induction word with
    | nil => rfl
    | cons c word ih =>
      obtain ⟨noMark, others⟩ := List.forall_mem_cons.1 plain
      have stays : Mode.after [.name, .code 0] c = some [.name, .code 0] := by
        simp only [List.mem_cons, List.not_mem_nil, or_false, not_or] at noMark
        simp [Mode.after, noMark]
      simp only [List.cons_append, expression?, stays, ih others, Option.map_map]
      rfl
  change (expression? [.name, .code 0] (word ++ '\x60' :: rest)).map ('\x60' :: ·) = _
  rw [inside, Option.map_map]
  rfl

/-- A text after which the closing brace is read as such is an expression. -/
theorem isTemplateExpression_of_append {word rest : List Char}
    (h : ∀ more, expression? [.code 0] (word ++ more) =
      (expression? [.code 0] more).map (word ++ ·)) (plain : ∀ c ∈ rest, c ∉ codeMarks) :
    IsTemplateExpression (word ++ rest) := by
  rw [IsTemplateExpression, List.append_assoc, h, expression?_append plain, Option.map_map]
  change some (word ++ (rest ++ [])) = _
  rw [List.append_nil]

/-- The identifier of a property, with more code after it, is an expression. -/
theorem isTemplateExpression_identifierOf {name : String} (plain : isPlainIdentifier name.toList)
    {rest : List Char} (code : ∀ c ∈ rest, c ∉ codeMarks) :
    IsTemplateExpression ((identifierOf .kotlin name).toList ++ rest) := by
  have continues : ∀ c ∈ name.toList, continuesIdentifier c :=
    ((isPlainIdentifier_iff (by rintro eq; rw [eq] at plain; cases plain)).1 plain).1
  refine isTemplateExpression_of_append (fun more => ?_) code
  by_cases reserved : name ∈ TargetLanguage.kotlin.keywords
  · have inside : ∀ c ∈ name.toList, c ∉ ['\x60', '\n', '\r'] := fun c mem =>
      notMem_of_all (by decide) (continues c mem)
    have escaped : (identifierOf .kotlin name).toList =
        '\x60' :: (name.toList ++ ['\x60']) := by
      rw [identifierOf_of_mem reserved]
      simp [escapeKeyword, String.toList_append]
    simpa [escaped] using expression?_name inside more
  · rw [identifierOf_of_notMem reserved]
    exact expression?_append (fun c mem => notMem_of_all (by decide) (continues c mem)) more

/-- What a check reports is the value or a property of it. -/
theorem exists_of_reported {guard : Guard} {value actual : String}
    (reports : reportedExpression .kotlin guard value = .ok (some actual)) :
    ∃ read ∈ ["", ".length", ".size"], actual = value ++ read := by
  have line {key read : String} (mem : read ∈ ["", ".length", ".size"])
      (filled : filledLine .kotlin key [("value", value)] = .ok (String.join [value, read]))
      (same : some <$> filledLine .kotlin key [("value", value)] = .ok (some actual)) :
      ∃ read ∈ ["", ".length", ".size"], actual = value ++ read := by
    rw [filled] at same
    cases same
    exact ⟨read, mem, by simp⟩
  unfold reportedExpression at reports
  cases reported : guard.reported with
  | value => exact @line _ "" (by simp) (by simp; rfl) (reported ▸ reports)
  | length => exact line (by simp) rfl (reported ▸ reports)
  | size => exact line (by simp) rfl (reported ▸ reports)
  | nothing =>
    rw [reported] at reports
    cases reports

/-- A name with a point and another name after it is no identifier. -/
theorem not_isIdentifier_append {read : String} (mem : read ∈ [".length", ".size"])
    (value : String) : ¬isIdentifier (value ++ read) := by
  intro valid
  obtain ⟨point, last⟩ := (by decide : ∀ read ∈ [".length", ".size"],
    '.' ∈ read.toList ∧ read.toList.getLast? ≠ some '\n') read mem
  have nonempty : read.toList ≠ [] := List.ne_nil_of_mem point
  have plain : isPlainIdentifier (value.toList ++ read.toList) :=
    isPlainIdentifier_iff_dropFinalNewline.2 ⟨by rwa [isIdentifier, String.toList_append] at valid,
      by rwa [List.getLast?_append_of_ne_nil _ nonempty]⟩
  have continues := ((isPlainIdentifier_iff (List.append_ne_nil_of_right_ne_nil _ nonempty)).1
    plain).1 _ (List.mem_append_right _ point)
  exact absurd continues (by decide)

/-- What the check of a property reports stands in a message as it is. -/
theorem interpolates_of_reported {guard : Guard} {name actual : String}
    (plain : isPlainIdentifier name.toList)
    (reports : reportedExpression .kotlin guard (identifierOf .kotlin name) = .ok (some actual)) :
    Interpolates actual := by
  obtain ⟨read, mem, rfl⟩ := exists_of_reported reports
  unfold Interpolates
  split
  · rename_i valid
    rcases List.mem_cons.1 mem with rfl | mem
    · rw [String.append_empty] at valid ⊢
      by_cases reserved : name ∈ TargetLanguage.kotlin.keywords
      · obtain ⟨first, rest, chars, begins⟩ := Java.exists_of_isIdentifier valid
        rw [identifierOf_of_mem reserved, escapeKeyword, String.toList_append,
          String.toList_append] at chars
        rw [← (List.cons.inj chars).1] at begins
        exact absurd begins (by decide)
      · rw [identifierOf_of_notMem reserved]
        exact ⟨plain, fun mem => absurd mem reserved⟩
    · exact absurd valid (not_isIdentifier_append mem _)
  · rw [String.toList_append]
    have code : read.toList.all (!codeMarks.contains ·) := (by decide :
      ∀ read ∈ ["", ".length", ".size"], read.toList.all (!codeMarks.contains ·)) read mem
    exact isTemplateExpression_identifierOf plain (by simpa using code)

end Kotlin

/-! ## Python -/

namespace Python

/-- The letters and marks that stand for a character after a backslash. Escapes by octal digits or
by names are left out. -/
def escapeLetters : List (Char × Char) :=
  [('\\', '\\'), ('\'', '\''), ('"', '"'), ('a', '\x07'), ('b', '\x08'), ('f', '\x0c'),
    ('n', '\n'), ('r', '\r'), ('t', '\t'), ('v', '\x0b')]

/-- Whether the brackets of a text are balanced, and outside of them no exclamation mark, colon or
equals sign stands that is not part of a comparison. `closing` are the brackets that close those
which are open, and `second` says whether a character is the second one of a comparison. -/
def closesBrackets : (closing : List Char) → (second : Bool) → List Char → Bool
  | closing, _, [] => closing.isEmpty
  | closing, true, _ :: rest => closesBrackets closing false rest
  | closing, false, c :: rest =>
    if c = '(' then closesBrackets (')' :: closing) false rest
    else if c = '[' then closesBrackets (']' :: closing) false rest
    else if c = ')' ∨ c = ']' then
      closing.head? = some c && closesBrackets closing.tail false rest
    else if closing.isEmpty && ['!', '=', '<', '>'].contains c && rest.head? = some '=' then
      closesBrackets [] true rest
    else if closing.isEmpty && ['!', ':', '='].contains c then false
    else closesBrackets closing false rest

/-- The characters that do not stand in the expression of a replacement field: quotation marks,
backslashes, braces, line breaks and the sign of a comment. -/
def outsideFields : List Char := ['"', '\'', '\\', '\x7b', '\x7d', '#', '\n', '\r']

/-- Whether a text is read as the expression of a replacement field, with nothing else in the
field: a conversion, a format or the sign for showing the expression itself would end it. -/
def isFieldExpression (source : List Char) : Bool :=
  source.all (!outsideFields.contains ·) && !source.all isBlank && closesBrackets [] false source

/-- What a brace and what follows it denote: a brace, or the expression of a replacement field. -/
def field? (rest : List Char) : Option (List TextItem × Nat) :=
  if rest.head? = some '\x7b' then some ([.code '\x7b'.toNat], 1)
  else
    let source := rest.takeWhile (· ≠ '\x7d')
    if isFieldExpression source && source.length < rest.length then
      some ([.expression source], source.length + 1)
    else none

def token? (formatted : Bool) (c : Char) (rest : List Char) : Option (List TextItem × Nat) :=
  if c = '\\' then escape? escapeLetters [('x', 2), ('u', 4), ('U', 8)] rest
  else if formatted && c = '\x7b' then field? rest
  else if formatted && c = '\x7d' then
    if rest.head? = some '\x7d' then some ([.code c.toNat], 1) else none
  else if c = '\n' ∨ c = '\r' then none
  else some ([.code c.toNat], 0)

def readText? : List Char → Option (List TextItem)
  | 'f' :: source => literal? '"' (token? true) source
  | source => literal? '"' (token? false) source

/-- A brace as it stands in a formatted literal, or another character of an escaped text. -/
def fit (formatted : Bool) (c : Char) : List Char :=
  if formatted && (c = '\x7b' || c = '\x7d') then [c, c] else [c]

/-- An escaped text between marks, with its braces as they stand in a literal. -/
theorem flatMap_fit_escaped (formatted : Bool) (text : List Char) :
    (escaped text).flatMap (fit formatted) =
      '"' :: (text.flatMap (fun c => (escapedChar c).flatMap (fit formatted)) ++ ['"']) := by
  have mark : fit formatted '"' = ['"'] := if_neg (by simp)
  rw [escaped, List.flatMap_cons, mark, List.flatMap_append, List.flatMap_singleton, mark,
    escapedChars, List.flatMap_assoc]
  rfl

theorem stringLiteral_toList (text : String) : (stringLiteral .python text).toList =
    '"' :: (text.toList.flatMap (fun c => (escapedChar c).flatMap (fit false)) ++ ['"']) := by
  rw [← flatMap_fit_escaped, stringLiteral, String.toList_ofList]
  exact (List.flatMap_singleton' _).symm

/-- The characters of a message with a value in a replacement field. -/
theorem messageLiteral_toList (message actual : String) :
    (messageLiteral .python message (some actual)).toList = 'f' :: '"' ::
      (((message ++ " - ").toList.flatMap (fun c => (escapedChar c).flatMap (fit true)) ++
        '\x7b' :: (actual.toList ++ ['\x7d'])) ++ ['"']) := by
  have fixed : doubleBraces (stringLiteralChars .python (message.toList ++ [' ', '-', ' '])) =
      '"' :: ((message ++ " - ").toList.flatMap (fun c => (escapedChar c).flatMap (fit true)) ++
        ['"']) := by
    rw [← flatMap_fit_escaped, String.toList_append]
    rfl
  unfold messageLiteral
  simp only [fixed]
  rw [← List.cons_append, List.dropLast_concat]
  simp [String.toList_append, String.toList_ofList]

/-- A character is read as its units. -/
theorem reads_escapedChar (formatted : Bool) (c : Char) : Reads (unmarked '"' (token? formatted))
    ((escapedChar c).flatMap (fit formatted)) (codes (utf16Units c)) := by
  refine reads_escape (fun _ => rfl) rfl (fun x other => if_neg fun brace => other ?_)
    (escapes_escapedChar c) (fun letter mem => ?_) fun visible noQuote noBackslash => ?_
  · simp_all
  · exact (by decide : ∀ p ∈ Text.escapeLetters, escapeLetters.lookup p.1 = some p.2 ∧
      [('x', 2), ('u', 4), ('U', 8)].lookup p.1 = none) _ mem
  · split
    · rename_i brace
      simp only [Bool.and_eq_true, Bool.or_eq_true, decide_eq_true_eq] at brace
      obtain ⟨rfl, rfl | rfl⟩ := brace <;> exact .unmarked (by decide) fun _ => rfl
    · rename_i noBrace
      have noBreak : ¬(c = '\n' ∨ c = '\r') := by
        rintro (rfl | rfl) <;> exact absurd visible (by decide)
      refine .unmarked noQuote fun rest => ?_
      have noOpening : ¬(formatted && c = '\x7b') := by simp_all
      have noClosing : ¬(formatted && c = '\x7d') := by simp_all
      rw [token?, if_neg noBackslash, if_neg noOpening, if_neg noClosing, if_neg noBreak]
      rfl

/-- A replacement field is one expression if nothing but an expression stands in it. -/
theorem tokens?_field (source : List Char) :
    tokens? (unmarked '"' (token? true)) 0 ('\x7b' :: (source ++ ['\x7d'])) =
      some [.expression source] ↔ isFieldExpression source := by
  have first (rest : List Char) : unmarked '"' (token? true) '\x7b' rest = field? rest := rfl
  rw [tokens?, first, field?]
  constructor
  · intro read
    dsimp only at read
    split at read
    · obtain ⟨items, -, same⟩ := Option.map_eq_some_iff.1 read
      cases same
    · split at read
      · rename_i valid
        obtain ⟨items, -, same⟩ := Option.map_eq_some_iff.1 read
        rw [← TextItem.expression.inj (List.cons.inj same).1]
        exact (Bool.and_eq_true_iff.1 valid).1
      · cases read
  · intro valid
    have inside : ∀ c ∈ source, c ∉ outsideFields := by
      simpa using (Bool.and_eq_true_iff.1 (Bool.and_eq_true_iff.1 valid).1).1
    have up : (source ++ ['\x7d']).takeWhile (· ≠ '\x7d') = source := by
      rw [List.takeWhile_append_of_pos fun c mem => ?_]
      · simp
      · exact decide_eq_true fun brace => inside c mem (brace ▸ by decide)
    have noBrace : (source ++ ['\x7d']).head? ≠ some '\x7b' := by
      cases source with
      | nil => decide
      | cons c rest =>
        exact fun same => inside c List.mem_cons_self (Option.some.inj same ▸ by decide)
    have skipped := tokens?_length (unmarked '"' (token? true)) (source ++ ['\x7d']) []
    rw [List.append_nil, List.length_append, List.length_singleton] at skipped
    rw [if_neg noBrace]
    simp only [up, valid, List.length_append, List.length_singleton, Nat.lt_add_one, decide_true,
      Bool.and_self, ↓reduceIte, Option.bind_some, skipped]
    rfl

theorem codes_inj {ns others : List Nat} : codes ns = codes others ↔ ns = others :=
  (List.map_injective_iff.2 fun _ _ => TextItem.code.inj).eq_iff

/-- The units of a text are its code points if one item follows the latter where some follow the
former: there are not less units than code points. -/
theorem codes_append_inj {text : List Char} {items : List TextItem} {source : List Char}
    (same : codes (utf16 text) ++ items = codes (text.map Char.toNat) ++ [.expression source]) :
    utf16 text = text.map Char.toNat ∧ items = [.expression source] := by
  -- The item at the end is no code, so it is not part of a longer text.
  have nonempty : items ≠ [] := by
    rintro rfl
    have mem : .expression source ∈ codes (utf16 text) := by
      rw [← List.append_nil (codes _), same]
      exact List.mem_append_right _ (List.mem_singleton_self _)
    obtain ⟨unit, -, other⟩ := List.mem_map.1 mem
    cases other
  have lengths := congrArg List.length same
  simp only [codes, List.length_append, List.length_map, List.length_singleton,
    length_utf16] at lengths
  have more := List.length_pos_iff.2 nonempty
  obtain ⟨fixed, rest⟩ := List.append_inj same (by
    simp only [codes, List.length_map, length_utf16]
    omega)
  exact ⟨codes_inj.1 fixed, rest⟩

theorem readText?_mark (rest : List Char) :
    readText? ('"' :: rest) = literal? '"' (token? false) ('"' :: rest) := rfl

theorem readText?_format (source : List Char) :
    readText? ('f' :: source) = literal? '"' (token? true) source := rfl

/-- Literals of texts and messages are read as written, the latter with one expression at the end:
exactly when no character has two units, and the expression can stand in a replacement field. -/
theorem readText?_field_iff (text message actual : String) :
    (readText? (stringLiteral .python text).toList = some (codes (text.toList.map Char.toNat)) ↔
      ∀ c ∈ text.toList, c.toNat < 0x10000) ∧
    (readText? (messageLiteral .python message (some actual)).toList =
        some (codes ((message ++ " - ").toList.map Char.toNat) ++ [.expression actual.toList]) ↔
      (∀ c ∈ message.toList, c.toNat < 0x10000) ∧ isFieldExpression actual.toList) := by
  have reads (formatted : Bool) (text : List Char) : Reads (unmarked '"' (token? formatted))
      (text.flatMap fun c => (escapedChar c).flatMap (fit formatted)) (codes (utf16 text)) := by
    rw [codes, utf16, List.map_flatMap]
    exact .flatMap fun c _ => reads_escapedChar formatted c
  constructor
  · rw [← utf16_eq_iff, stringLiteral_toList, readText?_mark, literal?_eq, (reads false _).eq,
      Option.some_inj, codes_inj]
  · have small : (∀ c ∈ (message ++ " - ").toList, c.toNat < 0x10000) ↔
        ∀ c ∈ message.toList, c.toNat < 0x10000 := by
      simp [String.toList_append, or_imp, forall_and]
    rw [← small, ← utf16_eq_iff, ← tokens?_field, messageLiteral_toList, readText?_format,
      literal?_eq, reads true]
    constructor
    · intro read
      obtain ⟨items, read, same⟩ := Option.map_eq_some_iff.1 read
      obtain ⟨fixed, rfl⟩ := codes_append_inj same
      exact ⟨fixed, read⟩
    · rintro ⟨fixed, read⟩
      rw [read, fixed, Option.map_some]

/-- A character with two units is read as two characters. -/
theorem readText?_emoji :
    readText? (stringLiteral .python (String.ofList [Char.ofNat 0x1F600])).toList =
      some (codes [0xD83D, 0xDE00]) := by decide

/-! ### What checks report -/

def inPath (c : Char) : Bool := continuesIdentifier c || c = '.'

/-- Names with points between them stand in an expression without closing its brackets. -/
theorem closesBrackets_append {word : List Char} (plain : ∀ c ∈ word, inPath c)
    (closing rest : List Char) :
    closesBrackets closing false (word ++ rest) = closesBrackets closing false rest := by
  induction word with
  | nil => rfl
  | cons c word ih =>
    obtain ⟨first, others⟩ := List.forall_mem_cons.1 plain
    have noMark : c ∉ ['(', '[', ')', ']', '!', '=', '<', '>', ':'] :=
      notMem_of_all (by decide) first
    simp only [List.mem_cons, List.not_mem_nil, or_false, not_or] at noMark
    rw [List.cons_append, closesBrackets, ih others]
    simp [noMark]

/-- What a check reports is the value or its length. -/
theorem eq_or_eq_of_reported {guard : Guard} {value actual : String}
    (reports : reportedExpression .python guard value = .ok (some actual)) :
    actual = value ∨ actual = "len(" ++ value ++ ")" := by
  have line {key : String} (filled : filledLine .python key [("value", value)] =
        .ok (String.join ["len(", value, ")"]))
      (same : some <$> filledLine .python key [("value", value)] = .ok (some actual)) :
      actual = value ∨ actual = "len(" ++ value ++ ")" := by
    rw [filled] at same
    cases same
    exact .inr (by simp [String.append_assoc])
  unfold reportedExpression at reports
  cases reported : guard.reported with
  | value =>
    have filled : filledLine .python "_actual.value" [("value", value)] =
      .ok (String.join [value]) := rfl
    rw [reported] at reports
    change some <$> filledLine .python "_actual.value" [("value", value)] = _ at reports
    rw [filled] at reports
    cases reports
    exact .inl (by simp)
  | length => exact line rfl (reported ▸ reports)
  | size => exact line rfl (reported ▸ reports)
  | nothing =>
    rw [reported] at reports
    cases reports

theorem isBlank_eq_false {c : Char} (plain : inPath c) : isBlank c = false := by
  have range : 46 ≤ c.toNat ∧ c.toNat ≤ 122 := by
    rcases Bool.or_eq_true_iff.1 plain with continues | point
    · rcases Bool.or_eq_true_iff.1 continues with letter | underscore
      · have bounds := isAlphanum_iff.1 letter
        simp only [isLower_iff, isUpper_iff, Char.isDigit_iff_toNat, Char.reduceToNat] at bounds
        omega
      · rw [of_decide_eq_true underscore]
        decide
    · rw [of_decide_eq_true point]
      decide
  simp only [isBlank, CodePoints.contains, blanks, List.any_cons, List.any_nil, Bool.or_false,
    Bool.or_eq_false_iff, Bool.and_eq_false_iff, decide_eq_false_iff_not]
  omega

/-- What the check of a value reports stands in a message as it is. -/
theorem isFieldExpression_of_reported {guard : Guard} {value actual : String}
    (nonempty : value ≠ "") (plain : ∀ c ∈ value.toList, inPath c)
    (reports : reportedExpression .python guard value = .ok (some actual)) :
    isFieldExpression actual.toList := by
  have allowed : value.toList.all (!outsideFields.contains ·) := by
    have notMem : ∀ c ∈ value.toList, c ∉ outsideFields := fun c mem =>
      notMem_of_all (by decide) (plain c mem)
    simpa using notMem
  rcases eq_or_eq_of_reported reports with rfl | rfl
  · obtain ⟨c, mem⟩ := List.exists_mem_of_ne_nil _ (mt String.toList_eq_nil_iff.1 nonempty)
    have visible : actual.toList.all isBlank = false :=
      List.all_eq_false.2 ⟨c, mem, by simp [isBlank_eq_false (plain c mem)]⟩
    have closes := closesBrackets_append plain [] []
    rw [List.append_nil] at closes
    rw [isFieldExpression, allowed, visible, closes]
    rfl
  · have text : ("len(" ++ value ++ ")").toList = "len(".toList ++ (value.toList ++ [')']) := by
      simp [String.toList_append]
    have closes : closesBrackets [] false ("len(".toList ++ (value.toList ++ [')'])) = true := by
      change closesBrackets [')'] false (value.toList ++ [')']) = true
      rw [closesBrackets_append plain]
      rfl
    rw [text, isFieldExpression, List.all_append, List.all_append, allowed, closes]
    rfl

end Python

end SchemaClasses
