import SchemaClasses.Proofs.Emission
import SchemaClasses.Proofs.Emit.Backend
import SchemaClasses.Proofs.Output.Capture
import SchemaClasses.Session

/-!
# Calls of a session

All files of a request are rendered before the first of them is written, by classes and a backend
that are made for the request. So a call that fails has written nothing, and what a call returns
depends on the language and the settings only, whatever was called before.

## Main definitions

* `Session.Answers`: what a call returns and what it changes.

## Main statements

* `distinctTargets_of_renderClasses`: no two files of a run have the same target.
* `Session.call_render`, `Session.call_generate`: what the steps of a call come to.
* `Session.answers_afterCalls`: what each call of a sequence returns and changes.
* `Session.targets_afterCalls`: targets stay where they were first written.
-/

namespace SchemaClasses

/-- Rendered files have different targets: a file whose target is there already takes its place. -/
theorem distinctTargets_of_renderClasses {graph : ClassGraph} {settings : Settings}
    {language : TargetLanguage} {classes : List ClassId} {rendered files : List (Target × String)}
    (distinct : DistinctTargets rendered)
    (h : renderClasses graph settings language rendered classes = .ok files) :
    DistinctTargets files := by
  induction classes generalizing rendered with
  | nil =>
    cases h
    exact distinct
  | cons id rest ih =>
    obtain ⟨ignored, -, h⟩ := Except.bind_eq_ok_iff.1 h
    cases ignored with
    | true => exact ih distinct h
    | false =>
      obtain ⟨text, -, h⟩ := Except.bind_eq_ok_iff.1 h
      obtain ⟨target, -, h⟩ := Except.bind_eq_ok_iff.1 h
      obtain ⟨target', -, h⟩ := Except.bind_eq_ok_iff.1 h
      exact ih distinct.setTarget h

namespace Session

variable (session : Session) (document : Node) (request : Request)

theorem run_ofExcept {α : Type} (result : Except Failure α) :
    (MonadExcept.ofExcept result : Work α).run session =
      match result with
      | .ok a => .ok a session
      | .error failure => .error failure session := by
  cases result <;> rfl

/-- The files of a request are those that a run renders, and nothing of the session changes. -/
theorem renderFiles_run :
    (renderFiles document request).run session =
      match session.render document request with
      | .ok files => .ok files session
      | .error failure => .error failure session := by
  simp only [renderFiles, EStateM.run_bind, EStateM.run_get, run_ofExcept,
    Backend.outcome_renderFiles, render, SchemaClasses.render]
  cases requestedClasses document session.settings request with
  | error failure => rfl
  | ok run =>
    simp only [bind, Except.bind]
    cases renderClasses run.1 session.settings session.language [] run.2 <;> rfl

theorem writeFiles_run (files : List (Target × String)) :
    (writeFiles files).run session =
      .ok () { session with captured := session.captured.writeAll files } := by
  induction files generalizing session with
  | nil => rfl
  | cons file rest ih => exact ih _

theorem call_render :
    session.call (.render document request) =
      (.files <$> session.render document request, session) := by
  simp only [call, perform, EStateM.run_bind, renderFiles_run]
  cases session.render document request <;> rfl

theorem call_generate :
    session.call (.generate document request) =
      match session.generate document request with
      | .ok (targets, after) => (.ok (.targets targets), after)
      | .error failure => (.error failure, session) := by
  simp only [call, perform, EStateM.run_bind, renderFiles_run, generate]
  cases session.render document request with
  | error failure => rfl
  | ok files => simp only [writeFiles_run]; rfl

/-- What a call returns and what it changes. -/
structure Answers (before : Session) (call : Call) (result : Except Failure Answer)
    (after : Session) : Prop where
  /-- A new session with the same language and settings returns the same. -/
  asNew : result =
    (Session.call { language := before.language, settings := before.settings } call).1
  /-- A call that fails changes nothing. -/
  failed : ∀ failure, result = .error failure → after = before
  /-- Rendering changes nothing. -/
  rendered : ∀ document request, call = .render document request → after = before
  /-- Generating returns the targets of the files that are rendered, and keeps those files. -/
  generated : ∀ document request answer, call = .generate document request →
    result = .ok answer → ∃ files,
      before.call (.render document request) = (.ok (.files files), before) ∧
        answer = .targets (files.map (·.1)) ∧ before.captured.Takes files after.captured ∧
        after.language = before.language ∧ after.settings = before.settings

theorem distinctTargets_of_render {files : List (Target × String)}
    (h : session.render document request = .ok files) : DistinctTargets files := by
  obtain ⟨⟨graph, classes⟩, -, rendered⟩ := Except.bind_eq_ok_iff.1 h
  have none : DistinctTargets [] := List.Pairwise.nil
  exact distinctTargets_of_renderClasses none rendered

theorem answers_render :
    session.Answers (.render document request)
      (session.call (.render document request)).1 (session.call (.render document request)).2 := by
  simp only [call_render]
  exact ⟨by rw [call_render]; rfl, fun _ _ => rfl, fun _ _ _ => rfl, nofun⟩

/-- Generating renders all files before it writes the first one, so that a failure changes
nothing. -/
theorem answers_generate :
    session.Answers (.generate document request) (session.call (.generate document request)).1
      (session.call (.generate document request)).2 := by
  have asNew : session.render document request =
      Session.render { language := session.language, settings := session.settings }
        document request := rfl
  cases rendered : session.render document request with
  | error failure =>
    have call : session.call (.generate document request) = (.error failure, session) := by
      rw [call_generate, generate, rendered]
      rfl
    rw [call]
    refine ⟨?_, fun _ _ => rfl, nofun, nofun⟩
    rw [call_generate, generate, ← asNew, rendered]
    rfl
  | ok files =>
    have call : session.call (.generate document request) = (.ok (.targets (files.map (·.1))),
        { session with captured := session.captured.writeAll files }) := by
      rw [call_generate, generate, rendered]
      rfl
    rw [call]
    refine ⟨?_, nofun, nofun, ?_⟩
    · rw [call_generate, generate, ← asNew, rendered]
      rfl
    · rintro _ _ _ ⟨⟩ ⟨⟩
      have distinct := session.distinctTargets_of_render document request rendered
      refine ⟨files, ?_, rfl, Capture.takes_writeAll distinct _, rfl, rfl⟩
      rw [call_render, rendered]
      rfl

/-- Each call of a sequence returns and changes what it would without the calls before it. -/
theorem answers_afterCalls (calls : List Call) (call : Call) :
    (session.afterCalls calls).Answers call ((session.afterCalls calls).call call).1
      ((session.afterCalls calls).call call).2 :=
  match call with
  | .render document request => answers_render _ document request
  | .generate document request => answers_generate _ document request
  | .setLanguage _ | .setSettings _ => ⟨rfl, nofun, nofun, nofun⟩

/-- A call adds targets at the end. -/
theorem targets_call (call : Call) :
    session.captured.targets <+: (session.call call).2.captured.targets := by
  cases call with
  | render document request =>
    have kept : (session.call (.render document request)).2 = session := by rw [call_render]
    exact kept.symm ▸ List.prefix_rfl
  | generate document request =>
    have answers := session.answers_generate document request
    cases result : (session.call (.generate document request)).1 with
    | error failure => exact (answers.failed failure result).symm ▸ List.prefix_rfl
    | ok answer =>
      obtain ⟨files, -, -, takes, -⟩ := answers.generated document request answer rfl result
      rw [takes.order]
      exact List.prefix_append _ _
  | setLanguage language => exact List.prefix_rfl
  | setSettings settings => exact List.prefix_rfl

/-- Targets stay in the order in which they were first written, whatever calls follow. -/
theorem targets_afterCalls (calls : List Call) :
    session.captured.targets <+: (session.afterCalls calls).captured.targets := by
  induction calls generalizing session with
  | nil => exact List.prefix_rfl
  | cons call rest ih => exact (session.targets_call call).trans (ih (session.call call).2)

end Session

end SchemaClasses
