import Mathlib.Data.List.Basic
import SchemaClasses.Text.Split

/-!
# Texts cut at a character

A text in which a character does not occur is one piece, names without dots are the pieces of the
text in which they are joined by dots, and what stands after the last slash of a
text is determined by the text.

## Main statements

* `Text.splitAt_intercalate`: the pieces of names that are joined by dots.
* `Text.splitAt_append_flatMap`, `Text.exists_splitAt_eq`: a text is made from its pieces.
* `Text.splitAt_append`: the pieces of two texts with a separator between them.
* `Text.append_segment_inj`: the last segment of a text and what stands before it.
-/

namespace SchemaClasses.Text

theorem splitAt_of_notMem {separator : Char} {text : List Char} (h : separator ∉ text) :
    splitAt separator text = [text] := by
  induction text with
  | nil => rfl
  | cons c rest ih =>
    rw [List.mem_cons, not_or] at h
    simp [splitAt, Ne.symm h.1, ih h.2]

/-- The first separator ends the first part. -/
theorem splitAt_append_cons {separator : Char} {before : List Char} (after : List Char)
    (h : separator ∉ before) :
    splitAt separator (before ++ separator :: after) = before :: splitAt separator after := by
  induction before with
  | nil => simp [splitAt]
  | cons c rest ih =>
    rw [List.mem_cons, not_or] at h
    simp [splitAt, Ne.symm h.1, ih h.2]

/-- Pieces with a separator before each but the first are the pieces of the text that they make. -/
theorem splitAt_append_flatMap {separator : Char} {first : List Char} {others : List (List Char)}
    (h : ∀ piece ∈ first :: others, separator ∉ piece) :
    splitAt separator (first ++ others.flatMap (separator :: ·)) = first :: others := by
  induction others generalizing first with
  | nil => simpa using splitAt_of_notMem (h first List.mem_cons_self)
  | cons next rest ih =>
    obtain ⟨first_free, rest_free⟩ := List.forall_mem_cons.1 h
    rw [List.flatMap_cons, List.cons_append, splitAt_append_cons _ first_free, ih rest_free]

/-- A text is made from its pieces, with a separator before each but the first. -/
theorem exists_splitAt_eq (separator : Char) (text : List Char) :
    ∃ first others, splitAt separator text = first :: others ∧
      first ++ others.flatMap (separator :: ·) = text ∧
      ∀ piece ∈ first :: others, separator ∉ piece := by
  induction text with
  | nil => exact ⟨[], [], by simp [splitAt]⟩
  | cons c rest ih =>
    obtain ⟨first, others, pieces, whole, free⟩ := ih
    by_cases isSeparator : c = separator
    · exact ⟨[], first :: others, by grind [splitAt]⟩
    · exact ⟨c :: first, others, by grind [splitAt]⟩

/-- The pieces of what stands on both sides of a separator are the pieces of the whole. -/
theorem splitAt_append (separator : Char) (before after : List Char) :
    splitAt separator (before ++ separator :: after) =
      splitAt separator before ++ splitAt separator after := by
  induction before with
  | nil => simp [splitAt]
  | cons c rest ih =>
    obtain ⟨first, others, pieces, -⟩ := exists_splitAt_eq separator rest
    by_cases isSeparator : c = separator <;> simp [splitAt, isSeparator, ih, pieces]

/-- Names that are joined by dots are the pieces between the dots again. -/
theorem splitAt_intercalate {names : List String} (nonempty : names ≠ [])
    (h : ∀ name ∈ names, '.' ∉ name.toList) :
    (splitAt '.' (".".intercalate names).toList).map String.ofList = names := by
  induction names with
  | nil => exact absurd rfl nonempty
  | cons name rest ih =>
    obtain ⟨first, others⟩ := List.forall_mem_cons.1 h
    cases rest with
    | nil => simp [splitAt_of_notMem first]
    | cons next rest =>
      have text : (".".intercalate (name :: next :: rest)).toList =
          name.toList ++ '.' :: (".".intercalate (next :: rest)).toList := by
        simp [String.intercalate_cons_cons]
      rw [text, splitAt_append_cons _ first, List.map_cons, ih (by simp) others,
        String.ofList_toList]

/-- What stands before the first slash of a text. -/
theorem takeWhile_append_slash {before : List Char} (after : List Char) (h : '/' ∉ before) :
    (before ++ '/' :: after).takeWhile (· ≠ '/') = before := by
  have all : ∀ c ∈ before, decide (c ≠ '/') = true := fun c hc =>
    decide_eq_true fun eq => h (eq ▸ hc)
  rw [List.takeWhile_append_of_pos all]
  simp

/-- The last segment of a path and what stands before it are determined by the path. -/
theorem append_segment_inj {a b s t : String} (hs : '/' ∉ s.toList) (ht : '/' ∉ t.toList)
    (h : a ++ "/" ++ s = b ++ "/" ++ t) : a = b ∧ s = t := by
  have hrev : s.toList.reverse ++ '/' :: a.toList.reverse =
      t.toList.reverse ++ '/' :: b.toList.reverse := by
    simpa using congrArg (fun text => text.toList.reverse) h
  have hst : s.toList.reverse = t.toList.reverse := calc
    s.toList.reverse = (s.toList.reverse ++ '/' :: a.toList.reverse).takeWhile (· ≠ '/') :=
      (takeWhile_append_slash _ (by simpa using hs)).symm
    _ = t.toList.reverse := by rw [hrev, takeWhile_append_slash _ (by simpa using ht)]
  rw [hst] at hrev
  have hab : a.toList.reverse = b.toList.reverse := by simpa using hrev
  exact ⟨String.toList_inj.1 (List.reverse_inj.1 hab), String.toList_inj.1 (List.reverse_inj.1 hst)⟩

end SchemaClasses.Text
