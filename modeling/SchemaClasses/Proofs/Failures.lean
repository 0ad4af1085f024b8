import SchemaClasses.Proofs.Build.Accounted
import SchemaClasses.Proofs.Emit.Languages
import SchemaClasses.Proofs.Regex.Faults

/-!
# Failures of requests

When a request has no files, the document, the pointer of the request or a setting of another type
than it is declared with accounts for that.

## Main definitions

* `Settings.IsTyped`: every setting has the type that it is declared with.
* `Settings.Misfits`: the failures that settings of other types lead to.

## Main statements

* `renderClasses_error`: what writing the files of classes fails with.
* `render_error`: what a request fails with.
-/

namespace SchemaClasses

/-! ## Settings -/

namespace Settings

structure IsTyped (settings : Settings) : Prop where
  basePackage : ∃ package, settings.basePackage = .string package
  baseDirectory : ∃ directory, settings.baseDirectory = .string directory
  deriveDirectories : ∃ on, settings.deriveDirectories = .bool on
  addGenerationComment : ∃ on, settings.addGenerationComment = .bool on
  ignoreClasses : ∃ names : List String, settings.ignoreClasses = .array (names.map .string)
  addValidation : ∃ on, settings.addValidation = .bool on

/-- The default settings are those that are declared. -/
theorem isTyped_default : ({} : Settings).IsTyped where
  basePackage := ⟨_, rfl⟩
  baseDirectory := ⟨_, rfl⟩
  deriveDirectories := ⟨_, rfl⟩
  addGenerationComment := ⟨_, rfl⟩
  ignoreClasses := ⟨[], rfl⟩
  addValidation := ⟨_, rfl⟩

/-- A failure that comes from a setting of another type than it is declared with. -/
structure Misfits (settings : Settings) (failure : Failure) : Prop where
  untyped : ¬settings.IsTyped
  kind : failure = .wrongType ∨ failure = .missingPart

/-- The ignored names fail if they are of another type. -/
theorem ignores_error {settings : Settings} {name : String} {failure : Failure}
    (fails : settings.ignores name = .error failure) : settings.Misfits failure := by
  unfold ignores at fails
  split at fails
  · cases fails
  · cases fails
  · cases fails
  · rename_i noArray _ _
    cases fails
    refine ⟨fun typed => ?_, .inl rfl⟩
    obtain ⟨names, given⟩ := typed.ignoreClasses
    exact noArray _ given

/-- The package and its directories fail if they are of other types. -/
theorem packageDirectories_error {settings : Settings} {failure : Failure}
    (fails : settings.packageDirectories = .error failure) : settings.Misfits failure := by
  unfold packageDirectories at fails
  split at fails
  · cases fails
  · split at fails
    · cases fails
    · rename_i noString
      cases fails
      refine ⟨fun typed => ?_, .inr rfl⟩
      obtain ⟨package, given⟩ := typed.basePackage
      exact noString _ given

end Settings

/-- The target of a class fails over settings of other types only. -/
theorem targetOf_error {language : TargetLanguage} {settings : Settings} {name : String}
    {failure : Failure}
    (fails : (targetOf language settings name >>= Target.distinguishable) = .error failure) :
    settings.Misfits failure := by
  rcases Except.bind_eq_error_iff.1 fails with fails | ⟨target, found, fails⟩
  · rcases Except.bind_eq_error_iff.1 fails with fails | ⟨directories, -, fails⟩
    · exact Settings.packageDirectories_error fails
    · cases fails
  · obtain ⟨directories, -, found⟩ := Except.bind_eq_ok_iff.1 found
    cases found
    unfold Target.distinguishable at fails
    split at fails
    · rename_i noText
      cases fails
      refine ⟨fun typed => ?_, .inl rfl⟩
      obtain ⟨directory, given⟩ := typed.baseDirectory
      simp [given, Value.isArray, Value.isObject] at noText
    · cases fails

/-! ## Requests -/

/-- What writing the files of classes fails with. -/
theorem renderClasses_error {root : Node} {graph : ClassGraph} {settings : Settings}
    {language : TargetLanguage} {classes : List ClassId} {rendered : List (Target × String)}
    {failure : Failure} (describes : graph.Describes root)
    (fails : renderClasses graph settings language rendered classes = .error failure) :
    root.Causes failure ∨ settings.Misfits failure := by
  induction classes generalizing rendered with
  | nil => cases fails
  | cons id rest ih =>
    rcases Except.bind_eq_error_iff.1 fails with fails | ⟨ignored, -, fails⟩
    · exact .inr (Settings.ignores_error fails)
    · split at fails
      · exact ih fails
      · rcases Except.bind_eq_error_iff.1 fails with fails | ⟨text, -, fails⟩
        · exact .inl (fileText_accounts describes settings language id failure fails)
        · rw [← bind_assoc] at fails
          rcases Except.bind_eq_error_iff.1 fails with fails | ⟨target, -, fails⟩
          · exact .inr (targetOf_error fails)
          · exact ih fails

/-- What a request fails with. -/
theorem render_error {document : Node} {settings : Settings} {language : TargetLanguage}
    {request : Request} {failure : Failure}
    (fails : render document settings language request = .error failure) :
    document.BuildCauses (request.schemas document) failure ∨ request.HasBadIndex failure ∨
      settings.Misfits failure := by
  have accounted := requestedClasses_accounted document settings request
  rcases Except.bind_eq_error_iff.1 fails with fails | ⟨⟨graph, classes⟩, found, fails⟩
  · rw [fails] at accounted
    exact accounted.imp_right .inl
  · rw [found] at accounted
    exact (renderClasses_error accounted fails).imp .ofCauses .inr

theorem Pointer.HasBadIndex.invalid {pointer : String} {failure : Failure}
    (bad : Pointer.HasBadIndex pointer failure) : ∃ problem, failure = .invalidValue problem := by
  obtain ⟨segment, -, -, fails⟩ := bad
  exact readIndex_error fails

theorem Request.HasBadIndex.invalid {request : Request} {failure : Failure}
    (bad : request.HasBadIndex failure) : ∃ problem, failure = .invalidValue problem := by
  cases request with
  | root name? => cases bad
  | members pointer include? => exact Pointer.HasBadIndex.invalid bad

end SchemaClasses
