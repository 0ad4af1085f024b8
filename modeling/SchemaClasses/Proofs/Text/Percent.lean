import SchemaClasses.Text.Percent

/-!
# Percent-encoded texts

A text may be percent-encoded in many ways: each character is written as itself or as its UTF-8
bytes, and a byte with digits of either case. As long as no percent sign is written as itself, the
text is decoded again.

## Main definitions

* `Text.utf8Bytes`: the bytes of a character.
* `Text.PercentEncodes`: the ways to write a text.

## Main statements

* `Text.utf8Sequences_append`: the bytes of a character are decoded to it.
* `Text.percentDecode_of_percentEncodes`: a percent-encoded text is decoded to what it writes.
-/

namespace SchemaClasses.Text

/-! ## UTF-8 -/

def utf8Bytes (c : Char) : List Nat := (String.utf8EncodeChar c).map UInt8.toNat

theorem utf8Continue_cons {code low high count byte : Nat} (h : low ≤ byte ∧ byte ≤ high)
    (rest : List Nat) : utf8Continue code low high (count + 1) (byte :: rest) =
      utf8Continue (64 * code + (byte - 0x80)) 0x80 0xBF count rest :=
  if_pos h

/-- The first byte of several is followed by the count of bytes and the range that it tells. -/
theorem utf8Step_lead {byte code count low high : Nat} (large : 0x80 ≤ byte)
    (lead : utf8Lead? byte = some (count, code, low, high)) (rest : List Nat) :
    utf8Step byte rest = utf8Continue code low high count rest := by
  rw [utf8Step, if_neg (Nat.not_lt.2 large), lead]

variable {n : Nat}

theorem utf8Lead?_two (low : 0x80 ≤ n) (high : n < 0x800) :
    utf8Lead? (n / 64 + 0xC0) = some (1, n / 64, 0x80, 0xBF) := by
  rw [utf8Lead?, if_pos (by omega), Nat.add_sub_cancel]

/-- The second byte of three is bounded if the first one says no more than the sign that it is one
of three, or if the character would be a surrogate. -/
theorem utf8Lead?_three (low : 0x800 ≤ n) (high : n < 0x10000)
    (scalar : n < 0xD800 ∨ 0xDFFF < n) :
    ∃ first last, utf8Lead? (n / 4096 + 0xE0) = some (2, n / 4096, first, last) ∧
      first ≤ n / 64 % 64 + 0x80 ∧ n / 64 % 64 + 0x80 ≤ last := by
  by_cases least : n / 4096 = 0
  · exact ⟨0xA0, 0xBF, by rw [least]; rfl, by omega⟩
  by_cases surrogates : n / 4096 = 0xD
  · exact ⟨0x80, 0x9F, by rw [surrogates]; rfl, by omega⟩
  refine ⟨0x80, 0xBF, ?_, by omega⟩
  rw [utf8Lead?, if_neg (by omega), if_neg (by omega), if_neg (by omega), if_pos (by omega),
    Nat.add_sub_cancel]

/-- The second byte of four is bounded if the first one is the least or the greatest that a
character has. -/
theorem utf8Lead?_four (low : 0x10000 ≤ n) (high : n < 0x110000) :
    ∃ first last, utf8Lead? (n / 262144 + 0xF0) = some (3, n / 262144, first, last) ∧
      first ≤ n / 4096 % 64 + 0x80 ∧ n / 4096 % 64 + 0x80 ≤ last := by
  by_cases least : n / 262144 = 0
  · exact ⟨0x90, 0xBF, by rw [least]; rfl, by omega⟩
  by_cases greatest : n / 262144 = 4
  · exact ⟨0x80, 0x8F, by rw [greatest]; rfl, by omega⟩
  refine ⟨0x80, 0xBF, ?_, by omega⟩
  rw [utf8Lead?, if_neg (by omega), if_neg (by omega), if_neg (by omega), if_neg (by omega),
    if_neg (by omega), if_pos (by omega), Nat.add_sub_cancel]

theorem utf8Step_two (low : 0x80 ≤ n) (high : n < 0x800) (rest : List Nat) :
    utf8Step (n / 64 + 0xC0) ((n % 64 + 0x80) :: rest) = (some (Char.ofNat n), rest) := by
  have code : 64 * (n / 64) + (n % 64 + 0x80 - 0x80) = n := by omega
  rw [utf8Step_lead (by omega) (utf8Lead?_two low high), utf8Continue_cons (by omega), code,
    utf8Continue]

/-- Three bytes are read as their character. -/
theorem utf8Step_three (low : 0x800 ≤ n) (high : n < 0x10000)
    (scalar : n < 0xD800 ∨ 0xDFFF < n) (rest : List Nat) :
    utf8Step (n / 4096 + 0xE0) ((n / 64 % 64 + 0x80) :: (n % 64 + 0x80) :: rest) =
      (some (Char.ofNat n), rest) := by
  obtain ⟨first, last, lead, inside⟩ := utf8Lead?_three low high scalar
  have code : 64 * (64 * (n / 4096) + (n / 64 % 64 + 0x80 - 0x80)) + (n % 64 + 0x80 - 0x80) =
      n := by omega
  rw [utf8Step_lead (by omega) lead, utf8Continue_cons inside, utf8Continue_cons (by omega), code,
    utf8Continue]

/-- Four bytes are read as their character. -/
theorem utf8Step_four (low : 0x10000 ≤ n) (high : n < 0x110000) (rest : List Nat) :
    utf8Step (n / 262144 + 0xF0)
        ((n / 4096 % 64 + 0x80) :: (n / 64 % 64 + 0x80) :: (n % 64 + 0x80) :: rest) =
      (some (Char.ofNat n), rest) := by
  obtain ⟨first, last, lead, inside⟩ := utf8Lead?_four low high
  have code : 64 * (64 * (64 * (n / 262144) + (n / 4096 % 64 + 0x80 - 0x80)) +
      (n / 64 % 64 + 0x80 - 0x80)) + (n % 64 + 0x80 - 0x80) = n := by omega
  rw [utf8Step_lead (by omega) lead, utf8Continue_cons inside, utf8Continue_cons (by omega),
    utf8Continue_cons (by omega), code, utf8Continue]

/-- The bytes of a character are decoded to it. -/
theorem utf8Sequences_append (c : Char) (rest : List Nat) :
    utf8Sequences (utf8Bytes c ++ rest) = some c :: utf8Sequences rest := by
  have scalar : c.toNat < 0xD800 ∨ 0xDFFF < c.toNat ∧ c.toNat < 0x110000 := c.valid
  have same : c.val.toNat = c.toNat := rfl
  have bytes : ∃ first others, utf8Bytes c = first :: others ∧
      utf8Step first (others ++ rest) = (some (Char.ofNat c.toNat), rest) := by
    unfold utf8Bytes
    fun_cases String.utf8EncodeChar c with
    | case1 v ascii =>
      have small : c.toNat < 0x80 := Nat.lt_succ_of_le ascii
      exact ⟨c.toNat, [], by simp [v, same]; omega, if_pos small⟩
    | case2 v more few =>
      exact ⟨_, [_], by simp [v, same]; omega, utf8Step_two (by omega) (by omega) rest⟩
    | case3 v _ more few =>
      exact ⟨_, [_, _], by simp [v, same]; omega,
        utf8Step_three (by omega) (by omega) (by omega) rest⟩
    | case4 v _ _ more =>
      exact ⟨_, [_, _, _], by simp [v, same]; omega, utf8Step_four (by omega) (by omega) rest⟩
  obtain ⟨first, others, bytes, step⟩ := bytes
  rw [bytes, List.cons_append, utf8Sequences, step, Char.ofNat_toNat]

/-- The bytes of a text are decoded to it. -/
theorem decodeUtf8Lossy_flatMap (text : List Char) :
    decodeUtf8Lossy (text.flatMap utf8Bytes) = text := by
  unfold decodeUtf8Lossy
  induction text with
  | nil => simp [utf8Sequences]
  | cons c rest ih => simpa [utf8Sequences_append] using ih

theorem utf8Bytes_of_ascii {c : Char} (ascii : c.toNat < 128) : utf8Bytes c = [c.toNat] := by
  have small : c.val.toNat ≤ 0x7F := Nat.le_of_lt_succ ascii
  have byte : (UInt8.ofNat c.toNat).toNat = c.toNat := Nat.mod_eq_of_lt (by omega)
  rw [utf8Bytes, String.utf8EncodeChar, if_pos small, List.map_singleton]
  exact congrArg (fun n => [n]) byte

/-! ## Written bytes -/

/-- Bytes are written one after the other, each as a percent sign and two hexadecimal digits of
either case. -/
inductive WritesBytes : List Nat → List Char → Prop
  | nil : WritesBytes [] []
  | cons {high low : Char} {h l : Nat} {bytes : List Nat} {written : List Char}
      (isHigh : hexValue? high = some h) (isLow : hexValue? low = some l)
      (rest : WritesBytes bytes written) :
      WritesBytes ((16 * h + l) :: bytes) ('%' :: high :: low :: written)

/-- A text is percent-encoded: each character is written as itself or by its UTF-8 bytes, and the
percent sign always by its byte. -/
inductive PercentEncodes : List Char → List Char → Prop
  | nil : PercentEncodes [] []
  | plain {c : Char} {text encoded : List Char} (noPercent : c ≠ '%')
      (rest : PercentEncodes text encoded) : PercentEncodes (c :: text) (c :: encoded)
  | bytes {c : Char} {text written encoded : List Char}
      (isWritten : WritesBytes (utf8Bytes c) written) (rest : PercentEncodes text encoded) :
      PercentEncodes (c :: text) (written ++ encoded)

variable {text encoded written run : List Char}

theorem percentBytes_plain {c : Char} (noPercent : c ≠ '%') (rest : List Char) :
    percentBytes (c :: rest) = c.toNat :: percentBytes rest := by
  rcases rest with - | ⟨high, - | ⟨low, rest⟩⟩
  · rfl
  · rfl
  · simp [percentBytes, noPercent]

theorem WritesBytes.percentBytes_append {bytes : List Nat} (h : WritesBytes bytes written)
    (rest : List Char) : percentBytes (written ++ rest) = bytes ++ percentBytes rest := by
  induction h with
  | nil => rfl
  | cons isHigh isLow _ ih => simp [percentBytes, isHigh, isLow, ih]

theorem toNat_lt_of_hexValue? {c : Char} {value : Nat} (h : hexValue? c = some value) :
    c.toNat < 128 := by
  have below {last : Char} (le : c ≤ last) (ascii : last.toNat < 128) : c.toNat < 128 :=
    Nat.lt_of_le_of_lt (UInt32.le_iff_toNat_le.1 le) ascii
  unfold hexValue? at h
  split at h
  · rename_i digit
    exact below digit.2 (by decide)
  · split at h
    · rename_i lower
      exact below lower.2 (by decide)
    · split at h
      · rename_i upper
        exact below upper.2 (by decide)
      · cases h

theorem WritesBytes.ascii {bytes : List Nat} (h : WritesBytes bytes written) :
    ∀ c ∈ written, c.toNat < 128 := by
  induction h with
  | nil => simp
  | cons isHigh isLow _ ih =>
    simp only [List.forall_mem_cons]
    exact ⟨by decide, toNat_lt_of_hexValue? isHigh, toNat_lt_of_hexValue? isLow, ih⟩

/-! ## Decoding -/

/-- ASCII characters are added to the run. -/
theorem percentDecodeFrom_append (ascii : ∀ c ∈ written, c.toNat < 128) (run rest : List Char) :
    percentDecodeFrom run (written ++ rest) = percentDecodeFrom (written.reverse ++ run) rest := by
  induction written generalizing run with
  | nil => rfl
  | cons c others ih =>
    obtain ⟨first, more⟩ := List.forall_mem_cons.1 ascii
    rw [List.cons_append, percentDecodeFrom, if_pos first, ih more]
    simp

/-- A run of characters writes a text, whatever follows in the run. -/
def RunWrites (run text : List Char) : Prop :=
  ∀ rest, percentBytes (run.reverse ++ rest) = text.flatMap utf8Bytes ++ percentBytes rest

theorem RunWrites.decode (h : RunWrites run text) :
    decodeUtf8Lossy (percentBytes run.reverse) = text := by
  have bytes := h []
  simp only [List.append_nil, percentBytes] at bytes
  rw [bytes, decodeUtf8Lossy_flatMap]

theorem RunWrites.plain {c : Char} (h : RunWrites run text) (noPercent : c ≠ '%')
    (ascii : c.toNat < 128) : RunWrites (c :: run) (text ++ [c]) := by
  intro rest
  simp [h (c :: rest), percentBytes_plain noPercent, utf8Bytes_of_ascii ascii]

theorem RunWrites.bytes {c : Char} (h : RunWrites run text)
    (written : WritesBytes (utf8Bytes c) encoded) :
    RunWrites (encoded.reverse ++ run) (text ++ [c]) := by
  intro rest
  simp [h (encoded ++ rest), written.percentBytes_append]

/-- An encoded text after a run that writes another one. -/
theorem PercentEncodes.decodeFrom {before : List Char} (h : PercentEncodes text encoded)
    (writes : RunWrites run before) : percentDecodeFrom run encoded = before ++ text := by
  induction h generalizing run before with
  | nil => rw [percentDecodeFrom, writes.decode, List.append_nil]
  | @plain c text encoded noPercent _ ih =>
    rw [percentDecodeFrom]
    by_cases ascii : c.toNat < 128
    · rw [if_pos ascii, ih (writes.plain noPercent ascii), List.append_assoc, List.singleton_append]
    · have fresh : RunWrites [] [] := fun _ => rfl
      rw [if_neg ascii, writes.decode, ih fresh, List.nil_append]
  | @bytes c text written encoded isWritten _ ih =>
    rw [percentDecodeFrom_append isWritten.ascii, ih (writes.bytes isWritten), List.append_assoc,
      List.singleton_append]

/-- A percent-encoded text is decoded to what it writes. -/
theorem percentDecode_of_percentEncodes (h : PercentEncodes text encoded) :
    percentDecode encoded = text := by
  have fresh : RunWrites [] [] := fun _ => rfl
  exact h.decodeFrom fresh

end SchemaClasses.Text
