/-!
# Decoding UTF-8

Bytes are decoded strictly, for files, or with a replacement character for each sequence that is
cut short or begins wrongly, for percent-encoded references. A wrong sequence ends before the first
byte that cannot continue it.

## Main definitions

* `Text.utf8Step`: the first character or wrong sequence, and the bytes after it.
* `Text.decodeUtf8?`: the text of well-formed bytes.
* `Text.decodeUtf8Lossy`: the text of any bytes.
-/

namespace SchemaClasses.Text

/-- For a leading byte: the count of bytes after it, its share of the code point, and the range of
the second byte, which excludes overlong forms, surrogates and numbers above `0x10FFFF`. -/
def utf8Lead? (byte : Nat) : Option (Nat × Nat × Nat × Nat) :=
  if 0xC2 ≤ byte ∧ byte ≤ 0xDF then some (1, byte - 0xC0, 0x80, 0xBF)
  else if byte = 0xE0 then some (2, 0, 0xA0, 0xBF)
  else if byte = 0xED then some (2, 0xD, 0x80, 0x9F)
  else if 0xE1 ≤ byte ∧ byte ≤ 0xEF then some (2, byte - 0xE0, 0x80, 0xBF)
  else if byte = 0xF0 then some (3, 0, 0x90, 0xBF)
  else if 0xF1 ≤ byte ∧ byte ≤ 0xF3 then some (3, byte - 0xF0, 0x80, 0xBF)
  else if byte = 0xF4 then some (3, 4, 0x80, 0x8F)
  else none

/-- Reads `count` continuing bytes onto a code point, the first of them within the given range. -/
def utf8Continue (code low high : Nat) : Nat → List Nat → Option Char × List Nat
  | 0, rest => (some (Char.ofNat code), rest)
  | _ + 1, [] => (none, [])
  | count + 1, byte :: rest =>
    if low ≤ byte ∧ byte ≤ high then utf8Continue (64 * code + (byte - 0x80)) 0x80 0xBF count rest
    else (none, byte :: rest)

/-- The first character of the bytes, or none for a wrong sequence, and the bytes after it. -/
def utf8Step (byte : Nat) (rest : List Nat) : Option Char × List Nat :=
  if byte < 0x80 then (some (Char.ofNat byte), rest)
  else match utf8Lead? byte with
    | none => (none, rest)
    | some (count, code, low, high) => utf8Continue code low high count rest

/-- Continuing bytes are taken from the front. -/
theorem length_utf8Continue_le (code low high count : Nat) (rest : List Nat) :
    (utf8Continue code low high count rest).2.length ≤ rest.length := by
  induction count generalizing code low high rest with
  | zero => simp [utf8Continue]
  | succ count ih =>
    cases rest with
    | nil => simp [utf8Continue]
    | cons byte rest =>
      simp only [utf8Continue]
      split
      · exact Nat.le_succ_of_le (ih _ _ _ _)
      · simp

theorem length_utf8Step_le (byte : Nat) (rest : List Nat) :
    (utf8Step byte rest).2.length ≤ rest.length := by
  unfold utf8Step
  split
  · simp
  · split
    · simp
    · exact length_utf8Continue_le _ _ _ _ _

def utf8Sequences : List Nat → List (Option Char)
  | [] => []
  | byte :: rest => (utf8Step byte rest).1 :: utf8Sequences (utf8Step byte rest).2
termination_by bytes => bytes.length
decreasing_by exact Nat.lt_succ_of_le (length_utf8Step_le byte rest)

def decodeUtf8? (bytes : List Nat) : Option (List Char) := (utf8Sequences bytes).mapM id

/-- The text of bytes, with the replacement character for each wrong sequence. -/
def decodeUtf8Lossy (bytes : List Nat) : List Char :=
  (utf8Sequences bytes).map (·.getD (Char.ofNat 0xFFFD))

end SchemaClasses.Text
