import SchemaClasses.Output.Capture
import SchemaClasses.Proofs.Decidable

/-!
# Captured files

Files that are written to memory take the places of those with the same targets, and others come
after all that were there. Whether two targets are the same is an equivalence, although their base
directories may be numbers of different kinds.

## Main definitions

* `DistinctTargets`: no two of the given files have the same target.
* `Capture.Takes`: how given files are kept.

## Main statements

* `Value.agrees_iff`: values agree when they are the same number or the same value.
* `lookup_setTarget`, `map_fst_setTarget`: the texts and the targets after one is set.
* `Capture.takes_writeAll`: files with distinct targets are kept in order.
-/

namespace SchemaClasses

/-! ## Targets that are the same -/

/-- Values agree when they are the same number, or the same value that is no number. -/
theorem Value.agrees_iff {a b : Value} :
    a.agrees b ↔ a.number? = b.number? ∧ (a.number? = none → a = b) := by
  have same : (a == b) = true ↔ a = b := same_iff
  unfold agrees
  cases left : a.number? <;> cases right : b.number? <;> grind

namespace Target

theorem same_iff {a b : Target} :
    a.same b ↔ a.name = b.name ∧ a.extension = b.extension ∧ a.directories = b.directories ∧
      a.baseDirectory.agrees b.baseDirectory := by
  simp [same, and_assoc]

theorem same_refl (a : Target) : a.same a := by
  simp [same_iff, Value.agrees_iff]

theorem same_symm {a b : Target} (h : a.same b) : b.same a := by
  grind [same_iff, Value.agrees_iff]

theorem same_trans {a b c : Target} (h : a.same b) (h' : b.same c) : a.same c := by
  grind [same_iff, Value.agrees_iff]

end Target

/-! ## Setting the texts of targets -/

section

variable {target other known : Target} {text old : String} {files rest : List (Target × String)}

theorem lookup_cons : ((known, old) :: rest).lookup other =
    if other.same known then some old else rest.lookup other := by
  change (match other.same known with | true => _ | false => _) = _
  cases other.same known <;> rfl

theorem setTarget_cons : setTarget target text ((known, old) :: rest) =
    if known.same target then (known, text) :: rest
    else (known, old) :: setTarget target text rest :=
  rfl

/-- A target is found if it is the one that has been set, or was there before. -/
theorem lookup_setTarget : (setTarget target text files).lookup other =
    if other.same target then some text else files.lookup other := by
  induction files with
  | nil => exact lookup_cons
  | cons file rest ih =>
    obtain ⟨known, old⟩ := file
    rw [setTarget_cons, lookup_cons]
    split
    · rename_i same
      have iff : other.same known ↔ other.same target :=
        ⟨(Target.same_trans · same), (Target.same_trans · (Target.same_symm same))⟩
      grind [lookup_cons]
    · rename_i differ
      have apart : ¬(other.same target ∧ other.same known) := fun h =>
        differ (Target.same_trans (Target.same_symm h.2) h.1)
      grind [lookup_cons]

theorem map_fst_setTarget : (setTarget target text files).map (·.1) =
    if files.any (·.1.same target) then files.map (·.1) else files.map (·.1) ++ [target] := by
  induction files with
  | nil => rfl
  | cons file rest ih =>
    rw [setTarget_cons]
    grind

def DistinctTargets (files : List (Target × String)) : Prop :=
  (files.map (·.1)).Pairwise fun a b => ¬a.same b

theorem DistinctTargets.setTarget (h : DistinctTargets files) :
    DistinctTargets (setTarget target text files) := by
  rw [DistinctTargets, map_fst_setTarget]
  split
  · exact h
  · rw [List.pairwise_append]
    refine ⟨h, List.pairwise_singleton _ _, ?_⟩
    grind

end

namespace Capture

/-- Files are kept: each under its target, in the place of the same target or after all others. -/
structure Takes (before : Capture) (files : List (Target × String)) (after : Capture) : Prop where
  set : ∀ file ∈ files, after.contains file.1 ∧ after.text file.1 = file.2
  kept : ∀ target, (∀ file ∈ files, ¬target.same file.1) →
    after.contains target = before.contains target ∧ after.text target = before.text target
  order : after.targets = before.targets ++ (files.map (·.1)).filter (!before.contains ·)

variable {before : Capture} {target other : Target} {text : String}

theorem contains_iff : before.contains target ↔ ∃ known ∈ before.targets, known.same target :=
  List.any_eq_true

theorem text_write : (before.write target text).text other =
    if other.same target then text else before.text other := by
  simp only [Capture.text, write, lookup_setTarget]
  split <;> rfl

theorem targets_write : (before.write target text).targets =
    if before.contains target then before.targets else before.targets ++ [target] := by
  have known : before.contains target = before.files.any (·.1.same target) := by
    simp only [contains, targets, List.any_map]
    rfl
  rw [known]
  exact map_fst_setTarget

theorem contains_write : (before.write target text).contains other ↔
    target.same other ∨ before.contains other := by
  rw [contains_iff, targets_write]
  split
  · rename_i known
    rw [← contains_iff]
    refine ⟨.inr, ?_⟩
    rintro (same | contained)
    · obtain ⟨first, mem, sameTarget⟩ := contains_iff.1 known
      exact contains_iff.2 ⟨first, mem, Target.same_trans sameTarget same⟩
    · exact contained
  · rw [contains_iff]
    grind

/-- Files with distinct targets are kept in order. The induction is on the files that are still to
be written. -/
theorem takes_writeAll {files : List (Target × String)} (distinct : DistinctTargets files)
    (before : Capture) : before.Takes files (before.writeAll files) := by
  induction files generalizing before with
  | nil => exact ⟨nofun, fun _ _ => ⟨rfl, rfl⟩, by simp [writeAll]⟩
  | cons file rest ih =>
    obtain ⟨target, text⟩ := file
    obtain ⟨apart, distinct⟩ := List.pairwise_cons.1 distinct
    obtain ⟨set, kept, order⟩ := ih distinct (before.write target text)
    have apart {file : Target × String} (mem : file ∈ rest) : ¬target.same file.1 :=
      apart file.1 (List.mem_map_of_mem mem)
    refine ⟨?_, fun other differs => ?_, ?_⟩
    · refine List.forall_mem_cons.2 ⟨?_, set⟩
      obtain ⟨contained, read⟩ := kept target fun file mem => apart mem
      have self := target.same_refl
      exact ⟨contained.trans (contains_write.2 (.inl self)),
        read.trans (by simp [text_write, self])⟩
    · obtain ⟨differs, differsRest⟩ := List.forall_mem_cons.1 differs
      obtain ⟨contained, read⟩ := kept other differsRest
      have differs' : ¬target.same other := fun same => differs (Target.same_symm same)
      refine ⟨contained.trans ?_, read.trans (by rw [text_write, if_neg differs])⟩
      rw [Bool.eq_iff_iff, contains_write, or_iff_right differs']
    · have others : (rest.map (·.1)).filter (!(before.write target text).contains ·) =
          (rest.map (·.1)).filter (!before.contains ·) := by
        refine List.filter_congr fun other mem => ?_
        obtain ⟨file, known, rfl⟩ := List.mem_map.1 mem
        rw [Bool.not_inj_iff, Bool.eq_iff_iff, contains_write, or_iff_right (apart known)]
      change (Capture.writeAll _ rest).targets = _
      rw [order, others, targets_write, List.map_cons, List.filter_cons]
      split <;> simp_all

end Capture

end SchemaClasses
