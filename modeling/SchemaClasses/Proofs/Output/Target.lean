import SchemaClasses.Output.Target
import SchemaClasses.Proofs.Outcome
import SchemaClasses.Proofs.Text.Split

/-!
# The paths of targets

All files of a run go into one directory, each under the name of its class. So classes with
different names have different files there, as long as there is no slash in the names.

## Main definitions

* `Path.child`: the path of a file in a directory.

## Main statements

* `Target.path_eq`: where the file of a target is.
* `targetOf_pathText_ne`: classes with different names have files with different paths.
-/

namespace SchemaClasses

namespace Path

def child (directory : Path) (name : String) : Path :=
  { directory with names := directory.names ++ [name] }

/-- A text without slashes is a single name. -/
theorem append_ofText (directory : Path) {name : String} (slash : '/' ∉ name.toList)
    (notEmpty : name ≠ "") (notDot : name ≠ ".") : directory ++ ofText name = directory.child name := by
  have root : rootOf name.toList = "" := by
    have none : name.toList.takeWhile (· = '/') = [] := by
      cases chars : name.toList with
      | nil => rfl
      | cons first rest =>
        rw [chars, List.mem_cons, not_or] at slash
        simp [Ne.symm slash.1]
    rw [rootOf, none]
    rfl
  have names : namesOf name.toList = [name] := by
    rw [namesOf, Text.splitAt_of_notMem slash]
    simp [notEmpty, notDot]
  rw [ofText, root, names]
  rfl

theorem append_child (path directory : Path) (name : String) :
    path ++ directory.child name = (path ++ directory).child name := by
  change append _ _ = child (append _ _) _
  unfold append child
  split <;> simp

/-- The texts of the paths in a directory begin alike. -/
theorem exists_text_child (directory : Path) :
    ∃ before, ∀ name, name ≠ "" → (directory.child name).text = before ++ name := by
  have joined : ∃ before, ∀ name, "/".intercalate (directory.names ++ [name]) = before ++ name := by
    by_cases empty : directory.names = []
    · exact ⟨"", fun name => by simp [empty]⟩
    · refine ⟨"/".intercalate directory.names ++ "/", fun name => ?_⟩
      rw [String.intercalate_append_of_ne_nil empty (by simp), String.intercalate_singleton]
  obtain ⟨before, joined⟩ := joined
  refine ⟨directory.root ++ before, fun name notEmpty => ?_⟩
  unfold text child
  rw [joined, String.append_assoc]
  split
  · rename_i empty
    simp_all
  · rfl

end Path

namespace Target

variable {target : Target}

/-- A file with a suffix has a proper name. -/
theorem fileName_ne (extended : target.extension ≠ "") :
    target.fileName ≠ "" ∧ target.fileName ≠ "." := by
  have pos : 0 < target.extension.length :=
    Nat.pos_of_ne_zero fun zero => extended (String.length_eq_zero_iff.1 zero)
  have dot : ".".length = 1 := rfl
  have length : target.fileName.length = target.name.length + 1 + target.extension.length := by
    simp [fileName, String.length_append, dot]
  refine ⟨fun eq => ?_, fun eq => ?_⟩
  · rw [eq, String.length_empty] at length
    omega
  · rw [eq, dot] at length
    omega

theorem slash_notMem_fileName (name : '/' ∉ target.name.toList)
    (extension : '/' ∉ target.extension.toList) : '/' ∉ target.fileName.toList := by
  simp [fileName, name, extension]

/-- The file of a target is in the directory of its package below the base directory. -/
theorem path_eq {base : String} (baseDirectory : target.baseDirectory = .string base)
    (slash : '/' ∉ target.fileName.toList) (extended : target.extension ≠ "") :
    target.path =
      .ok ((Path.ofText base ++ Path.ofParts target.directories).child target.fileName) := by
  obtain ⟨notEmpty, notDot⟩ := target.fileName_ne extended
  have relative : target.relativePath =
      (Path.ofParts target.directories).child target.fileName := by
    unfold relativePath Path.ofParts
    rw [List.foldl_append]
    exact Path.append_ofText _ slash notEmpty notDot
  unfold path
  rw [baseDirectory, relative]
  exact congrArg _ (Path.append_child _ _ _)

end Target

theorem TargetLanguage.extension_spec (language : TargetLanguage) :
    language.extension ≠ "" ∧ '/' ∉ language.extension.toList := by
  cases language <;> decide

/-- Classes with different names have files with different paths. -/
theorem targetOf_pathText_ne {language : TargetLanguage} {settings : Settings}
    {nameA nameB text : String} {a b : Target} (slashA : '/' ∉ nameA.toList)
    (slashB : '/' ∉ nameB.toList) (ne : nameA ≠ nameB)
    (targetA : targetOf language settings nameA = .ok a)
    (targetB : targetOf language settings nameB = .ok b) (pathA : a.pathText = .ok text) :
    b.pathText ≠ .ok text := by
  obtain ⟨extended, plain⟩ := language.extension_spec
  obtain ⟨directories, derived, eqA⟩ := Except.bind_eq_ok_iff.1 targetA
  obtain ⟨directories', derived', eqB⟩ := Except.bind_eq_ok_iff.1 targetB
  obtain rfl := Except.ok.inj (derived.symm.trans derived')
  cases eqA
  cases eqB
  intro pathB
  cases base : settings.baseDirectory with
  | string directory =>
    unfold Target.pathText at pathA pathB
    rw [Target.path_eq base (Target.slash_notMem_fileName slashA plain) extended] at pathA
    rw [Target.path_eq base (Target.slash_notMem_fileName slashB plain) extended] at pathB
    obtain ⟨before, joined⟩ := Path.exists_text_child
      (Path.ofText directory ++ Path.ofParts directories)
    have textA := Except.ok.inj pathA
    have textB := Except.ok.inj pathB
    rw [joined _ (Target.fileName_ne extended).1] at textA textB
    have sameFile := (String.append_right_inj before).1 (textA.trans textB.symm)
    exact ne (by simpa [Target.fileName] using sameFile)
  | _ =>
    simp [Target.pathText, Target.path, base] at pathA

end SchemaClasses
