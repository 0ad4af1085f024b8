import SchemaClasses.Proofs.Document.Designation

/-!
# Entering the end of a chain

The pointer at the end of a chain of references is itself taken for a reference, when the target is
taken into progress. It mostly designates the target again. The exceptions are the whole document,
the pointer of which is empty and so is no reference into it, and the pointers that are left when
something other than a slash follows a number sign.

## Main statements

* `Resolved.IsOf.resolve_pointer_iff`: the pointers that designate the ends of their chains.
* `Resolved.IsOf.resolve_pointer_iff_of_isPlain`: of usual references, all but those to the whole
  document.
* `Node.Within.reenters_iff`: the same for what following a reference gives.
-/

namespace SchemaClasses

open Pointer

variable {root node : Node} {resolved : Resolved} {reference : String}

/-- The pointer at the end of a chain designates the target if it begins with a slash, and if it
begins with a number sign and its segments, once it is decoded again, lead to the target. -/
theorem Resolved.IsOf.resolve_pointer_iff (h : resolved.IsOf root reference) :
    resolve root resolved.pointer = .ok resolved.target ↔
      resolved.pointer.toList.head? = some '/' ∨
        (resolved.pointer.toList.head? = some '#' ∧
          root.Leads (segments (canonical resolved.pointer)) resolved.target ∧
          ¬root.Stops (segments (canonical resolved.pointer))) := by
  by_cases slash : resolved.pointer.toList.head? = some '/'
  · have begins : (canonical reference).toList.head?.all (· = '/') := by
      simp [← h.pointer, slash]
    have same : canonical reference = canonical resolved.pointer := by
      rw [h.pointer, canonical_canonical_of_head begins]
    have isLocal' : isLocal resolved.pointer := isLocal_iff.2 (.inr slash)
    have again := resolve_congr (isLocal_of_resolve h.found) isLocal' same h.found
    simp [again, slash]
  by_cases sign : resolved.pointer.toList.head? = some '#'
  · rcases resolve_cases root (isLocal_iff.2 (.inl sign)) with
      ⟨stops, problem, stopped⟩ | ⟨free, found, -⟩
    · simp [stopped, stops, slash]
    · simp [found, free, sign]
  · have external : ¬isLocal resolved.pointer := by simp [isLocal_iff, slash, sign]
    simp [resolve, external, slash, sign]

/-- The pointer at the end of a chain of usual references designates the target, unless it is that
of the whole document. -/
theorem Resolved.IsOf.resolve_pointer_iff_of_isPlain (h : resolved.IsOf root reference)
    (plain : isPlain reference) :
    resolve root resolved.pointer = .ok resolved.target ↔ resolved.pointer ≠ "" := by
  have begins := head?_canonical plain (isLocal_of_resolve h.found)
  rw [h.resolve_pointer_iff, h.pointer]
  cases chars : (canonical reference).toList with
  | nil => simp [String.toList_eq_nil_iff.1 chars]
  | cons c rest =>
    have nonempty : canonical reference ≠ "" := by simp [← String.toList_eq_nil_iff, chars]
    obtain rfl : c = '/' := by simpa [chars] using begins
    simp [nonempty]

/-- The pointer that following a reference gives designates the target that it gives, if it begins
with a slash or leads to the target when what follows its number sign is decoded again. -/
theorem Node.Within.reenters_iff (within : root.Within node) (isReference : node.has "$ref")
    (found : SchemaClasses.follow root node = .ok resolved) :
    SchemaClasses.resolve root resolved.pointer = .ok resolved.target ↔
      resolved.pointer.toList.head? = some '/' ∨
        (resolved.pointer.toList.head? = some '#' ∧
          root.Leads (segments (canonical resolved.pointer)) resolved.target ∧
          ¬root.Stops (segments (canonical resolved.pointer))) := by
  obtain ⟨-, reference, isOf⟩ := within.refers_of_follow isReference found
  exact isOf.resolve_pointer_iff

def wholeAndWord : Value := .object [
  ("whole", .object [("$ref", .string "#")]),
  ("name", .object [("$ref", .string "#/word/")]),
  ("word", .object [("type", .string "string")])]

theorem Node.Within.reenters_iff_wholeAndWord :
    (Node.ofValue wholeAndWord).Within ⟨"/name", .object [("$ref", .string "#/word/")]⟩ ∧
      SchemaClasses.follow (.ofValue wholeAndWord)
        ⟨"/name", .object [("$ref", .string "#/word/")]⟩ =
          .ok ⟨"/word", ⟨"/word", .object [("type", .string "string")]⟩⟩ ∧
      SchemaClasses.resolve (.ofValue wholeAndWord) "/word" =
        .ok ⟨"/word", .object [("type", .string "string")]⟩ := by
  have within : (Node.ofValue wholeAndWord).Within
      ⟨"/name", .object [("$ref", .string "#/word/")]⟩ :=
    Node.mem_nodes_iff.1 (by decide +kernel)
  have found : SchemaClasses.follow (.ofValue wholeAndWord)
      ⟨"/name", .object [("$ref", .string "#/word/")]⟩ =
        .ok ⟨"/word", ⟨"/word", .object [("type", .string "string")]⟩⟩ := by decide +kernel
  exact ⟨within, found,
    (Node.Within.reenters_iff within (by decide +kernel) found).2 (.inl (by decide +kernel))⟩

/-- A reference to the whole document leads to it, but the pointer that is given for it does not. -/
theorem not_reenters_wholeAndWord :
    ¬∀ node resolved, (Node.ofValue wholeAndWord).Within node → node.has "$ref" →
      follow (.ofValue wholeAndWord) node = .ok resolved →
      resolve (.ofValue wholeAndWord) resolved.pointer = .ok resolved.target := by
  intro h
  have within : (Node.ofValue wholeAndWord).Within
      ⟨"/whole", .object [("$ref", .string "#")]⟩ := Node.mem_nodes_iff.1 (by decide +kernel)
  have found : follow (.ofValue wholeAndWord) ⟨"/whole", .object [("$ref", .string "#")]⟩ =
      .ok ⟨"", .ofValue wholeAndWord⟩ := by decide +kernel
  have again := h _ _ within (by decide +kernel) found
  have external : resolve (.ofValue wholeAndWord) "" ≠ .ok (.ofValue wholeAndWord) := by
    decide +kernel
  exact external again

end SchemaClasses
