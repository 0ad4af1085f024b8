import Mathlib.Algebra.Group.Nat.Defs
import Mathlib.Data.List.Basic
import SchemaClasses.Text.Escaped

/-!
# Escaped texts

An escaped text has visible ASCII characters only. Each of its characters is written in one of three
ways: by a backslash and a letter, as itself, or by its UTF-16 units, in four hexadecimal digits
each. What reads all three of them reads the text.

## Main definitions

* `Text.Visible`: the visible ASCII characters.
* `Text.Escapes`: the ways in which a character is escaped.
* `Text.ofUtf16?`: the text that UTF-16 units encode.

## Main statements

* `Text.escapes_escapedChar`: a character is escaped in one of these ways.
* `Text.exists_unitEscape`: the digits of a unit are read as the unit.
* `Text.ofUtf16?_utf16`: a text is decoded from its units.
-/

namespace SchemaClasses.Text

def Visible (c : Char) : Prop := ' ' ≤ c ∧ c ≤ '~'

instance (c : Char) : Decidable (Visible c) := inferInstanceAs (Decidable (_ ∧ _))

theorem Visible.toNat_bounds {c : Char} (h : Visible c) : 32 ≤ c.toNat ∧ c.toNat ≤ 126 := h

/-! ## Hexadecimal digits -/

theorem hexValue?_digitChar : ∀ digit < 16, hexValue? digit.digitChar = some digit := by decide

theorem exists_of_mem_hexDigits {width n : Nat} {c : Char} (mem : c ∈ hexDigits width n) :
    ∃ digit < 16, c = digit.digitChar := by
  induction width generalizing n with
  | zero => cases mem
  | succ width ih =>
    rw [hexDigits, List.mem_append, List.mem_singleton] at mem
    exact mem.elim ih fun last => ⟨n % 16, Nat.mod_lt n (by decide), last⟩

/-- Hexadecimal digits are read as the number that they write. -/
theorem hexNumber?_hexDigits {width n : Nat} (h : n < 16 ^ width) :
    hexNumber? (hexDigits width n) = some n := by
  induction width generalizing n with
  | zero =>
    rw [Nat.pow_zero, Nat.lt_one_iff] at h
    rw [h]
    rfl
  | succ width ih =>
    have before : hexNumber? (hexDigits width (n / 16)) = some (n / 16) :=
      ih (Nat.div_lt_of_lt_mul (by rwa [Nat.pow_succ, Nat.mul_comm] at h))
    have last := hexValue?_digitChar (n % 16) (Nat.mod_lt n (by decide))
    unfold hexNumber? at before ⊢
    rw [hexDigits, List.foldlM_append, before]
    simp [last, Nat.div_add_mod]

/-- The escape of a UTF-16 unit has four digits, which are read as the unit. -/
theorem exists_unitEscape {unit : Nat} (h : unit < 0x10000) :
    ∃ a b c d, unitEscape unit = ['\\', 'u', a, b, c, d] ∧ hexNumber? [a, b, c, d] = some unit ∧
      ∀ digit ∈ [a, b, c, d], ∃ value < 16, digit = value.digitChar := by
  have digits : hexDigits 4 unit = [(unit / 16 / 16 / 16 % 16).digitChar,
      (unit / 16 / 16 % 16).digitChar, (unit / 16 % 16).digitChar, (unit % 16).digitChar] := rfl
  refine ⟨_, _, _, _, by rw [unitEscape, digits], ?_, ?_⟩
  · rw [← digits]
    exact hexNumber?_hexDigits h
  · rw [← digits]
    exact fun digit mem => exists_of_mem_hexDigits mem

theorem not_mem_of_mem_unitEscape {unit : Nat} {c : Char} (h : unit < 0x10000)
    (mem : c ∈ unitEscape unit) : c ∉ ['$', '\x7b', '\x7d'] := by
  obtain ⟨a, b, c, d, written, -, digits⟩ := exists_unitEscape h
  rw [written, List.mem_cons, List.mem_cons] at mem
  rcases mem with rfl | rfl | mem
  · decide
  · decide
  · obtain ⟨value, small, rfl⟩ := digits _ mem
    exact (by decide : ∀ value < 16, value.digitChar ∉ ['$', '\x7b', '\x7d']) value small

/-! ## UTF-16 -/

/-- The text that UTF-16 units encode. A unit of a pair on its own encodes nothing. -/
def ofUtf16? : List Nat → Option (List Char)
  | [] => some []
  | unit :: rest =>
    if unit < 0xD800 ∨ (0xE000 ≤ unit ∧ unit < 0x10000) then
      (ofUtf16? rest).map (Char.ofNat unit :: ·)
    else match rest with
      | second :: rest =>
        if unit < 0xDC00 ∧ 0xDC00 ≤ second ∧ second < 0xE000 then
          (ofUtf16? rest).map
            (Char.ofNat (0x10000 + (unit - 0xD800) * 0x400 + (second - 0xDC00)) :: ·)
        else none
      | [] => none

def utf16 (text : List Char) : List Nat := text.flatMap utf16Units

theorem toNat_lt (c : Char) : c.toNat < 0xD800 ∨ (0xE000 ≤ c.toNat ∧ c.toNat < 0x110000) := by
  have scalar : c.toNat < 0xD800 ∨ 0xDFFF < c.toNat ∧ c.toNat < 0x110000 := c.valid
  omega

theorem mem_utf16Units {c : Char} {unit : Nat} (mem : unit ∈ utf16Units c) :
    unit = c.toNat ∨ 0xD800 ≤ unit := by
  unfold utf16Units at mem
  split at mem <;> grind

theorem lt_of_mem_utf16Units {c : Char} {unit : Nat} (mem : unit ∈ utf16Units c) :
    unit < 0x10000 := by
  have scalar := toNat_lt c
  unfold utf16Units at mem
  split at mem <;> grind

/-- The units of a character are decoded to it. -/
theorem ofUtf16?_append (c : Char) (rest : List Nat) :
    ofUtf16? (utf16Units c ++ rest) = (ofUtf16? rest).map (c :: ·) := by
  have scalar := toNat_lt c
  unfold utf16Units
  split
  · have single : c.toNat < 0xD800 ∨ (0xE000 ≤ c.toNat ∧ c.toNat < 0x10000) := by omega
    rw [List.singleton_append, ofUtf16?.eq_def]
    simp only [if_pos single, Char.ofNat_toNat]
  · have pair : 0x10000 + (0xD800 + (c.toNat - 0x10000) / 0x400 - 0xD800) * 0x400 +
        (0xDC00 + (c.toNat - 0x10000) % 0x400 - 0xDC00) = c.toNat := by omega
    simp only [List.cons_append, List.nil_append, ofUtf16?, pair, Char.ofNat_toNat]
    rw [if_neg (by omega), if_pos (by omega)]

/-- A text is decoded from its units. -/
theorem ofUtf16?_utf16 (text : List Char) : ofUtf16? (utf16 text) = some text := by
  induction text with
  | nil => rfl
  | cons c rest ih =>
    rw [utf16, List.flatMap_cons, ofUtf16?_append, ← utf16, ih, Option.map_some]

/-- The units of a character are its code point, unless it has two of them. -/
theorem utf16Units_eq_iff (c : Char) : utf16Units c = [c.toNat] ↔ c.toNat < 0x10000 := by
  unfold utf16Units
  split <;> simp_all

/-- A text has as many units as characters, and one more for each that has two. -/
theorem length_utf16 (text : List Char) : (utf16 text).length =
    text.length + (text.filter fun c => 0x10000 ≤ c.toNat).length := by
  induction text with
  | nil => rfl
  | cons c rest ih =>
    rw [utf16, List.flatMap_cons, List.length_append, ← utf16, ih, List.filter_cons, utf16Units]
    split <;> split <;> simp_all <;> omega

/-- The units of a text are its code points if none of its characters has two units. -/
theorem utf16_eq_iff (text : List Char) :
    utf16 text = text.map Char.toNat ↔ ∀ c ∈ text, c.toNat < 0x10000 := by
  constructor
  · intro same
    have lengths := congrArg List.length same
    rw [length_utf16, List.length_map, Nat.add_eq_left, List.length_eq_zero_iff,
      List.filter_eq_nil_iff] at lengths
    simpa using lengths
  · intro small
    induction text with
    | nil => rfl
    | cons c rest ih =>
      obtain ⟨first, others⟩ := List.forall_mem_cons.1 small
      rw [utf16, List.flatMap_cons, (utf16Units_eq_iff c).2 first, ← utf16, ih others]
      rfl

/-! ## The ways to escape a character -/

def escapeLetters : List (Char × Char) :=
  [('"', '"'), ('\\', '\\'), ('n', '\n'), ('r', '\r'), ('t', '\t'), ('b', '\x08'), ('f', '\x0c')]

inductive Escapes : Char → List Char → Prop
  | letter {letter c : Char} (mem : (letter, c) ∈ escapeLetters) : Escapes c ['\\', letter]
  | plain {c : Char} (visible : Visible c) (noQuote : c ≠ '"') (noBackslash : c ≠ '\\') :
    Escapes c [c]
  | units {c : Char} (noLetter : c ∉ escapeLetters.map (·.2)) :
    Escapes c ((utf16Units c).flatMap unitEscape)

/-- A character is escaped in one of these ways. -/
theorem escapes_escapedChar (c : Char) : Escapes c (escapedChar c) := by
  have control {n : Nat} (h : c.toNat = n) : c = Char.ofNat n := by rw [← h, Char.ofNat_toNat]
  unfold escapedChar
  split_ifs with special feed carriageReturn tab backspace formFeed visible
  · rcases Bool.or_eq_true_iff.1 special with quote | backslash
    · exact .letter (by rw [of_decide_eq_true quote]; decide)
    · exact .letter (by rw [of_decide_eq_true backslash]; decide)
  · exact .letter (by rw [feed]; decide)
  · exact .letter (by rw [carriageReturn]; decide)
  · exact .letter (by rw [tab]; decide)
  · exact .letter (by rw [control backspace]; decide)
  · exact .letter (by rw [control formFeed]; decide)
  · rw [Bool.or_eq_true, not_or] at special
    exact .plain visible (by simpa using special.1) (by simpa using special.2)
  · refine .units fun mem => ?_
    simp only [escapeLetters, List.map_cons, List.map_nil, List.mem_cons, List.not_mem_nil,
      or_false] at mem
    rcases mem with rfl | rfl | rfl | rfl | rfl | rfl | rfl <;> simp_all

end SchemaClasses.Text
