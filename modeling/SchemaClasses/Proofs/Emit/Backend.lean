import SchemaClasses.Emit.Backend

/-!
# Files written by a used backend

Whatever a backend has kept from the files it has written, or failed to write, it writes the next
one as a new backend does. The steps of a backend do what the steps of its language do in the place
where it stands, and change nothing of it but the requirements; a file is begun without any.

## Main statements

* `Backend.renderScoped_eq`: a backend writes a class as it is written in a context, and then stands
  where it stood before.
* `Backend.call_fst`, `Backend.call_snd`: the text of a file, and what a backend keeps.
* `Backend.call_afterCalls`: a used backend writes a file as a new one does.
* `Backend.outcome_renderFiles`: the files that one backend writes are the files of the run.
-/

namespace SchemaClasses.Backend

variable {α β : Type}

/-! ## Steps -/

theorem perform_bind (graph : ClassGraph) (step : Context → Emit α) (next : α → Context → Emit β) :
    (perform graph step >>= fun a => perform graph (next a)) =
      perform graph fun c => step c >>= fun a => next a c := by
  funext backend
  change EStateM.bind _ _ _ = _
  simp only [EStateM.bind, perform, bind]
  cases step (backend.context graph) backend.needs <;> rfl

theorem perform_pure (graph : ClassGraph) (a : α) :
    (pure a : Work α) = perform graph fun _ => pure a :=
  rfl

theorem perform_map (graph : ClassGraph) (f : α → β) (step : Context → Emit α) :
    f <$> perform graph step = perform graph fun c => f <$> step c := by
  funext backend
  change EStateM.map _ _ _ = _
  simp only [EStateM.map, perform, Functor.map]
  cases step (backend.context graph) backend.needs <;> rfl

theorem perform_mapM (graph : ClassGraph) (step : α → Context → Emit β) (as : List α) :
    as.mapM (fun a => perform graph (step a)) = perform graph fun c => as.mapM (step · c) := by
  induction as with
  | nil => rfl
  | cons a rest ih =>
    simp only [List.mapM_cons, ih, perform_pure graph, perform_bind]

theorem inBody_perform (graph : ClassGraph) (body : Option ClassId) (step : Context → Emit α) :
    inBody body (perform graph step) = perform graph fun c => step { c with body } := by
  funext backend
  have place : context { backend with body } graph = { backend.context graph with body } := rfl
  simp only [inBody, perform, place]
  cases step { backend.context graph with body } backend.needs <;> rfl

theorem perform_congr {graph : ClassGraph} {step step' : Context → Emit α}
    (same : ∀ c : Context, c.graph = graph → step c = step' c) :
    perform graph step = perform graph step' := by
  funext backend
  simp only [perform, same (backend.context graph) rfl]

/-- What a step reads of the place is the same in its continuation. -/
theorem perform_read {graph : ClassGraph} {read : Context → β} {next : β → Work α}
    {step : Context → Emit α}
    (same : ∀ b, ∃ step', next b = perform graph step' ∧
      ∀ c : Context, c.graph = graph → read c = b → step' c = step c) :
    (perform graph (fun c => pure (read c)) >>= next) = perform graph step := by
  funext backend
  obtain ⟨step', eq, same⟩ := same (read (backend.context graph))
  change next (read (backend.context graph)) backend = _
  simp only [eq, perform, same (backend.context graph) rfl rfl]

/-! ## Classes -/

section

variable (graph : ClassGraph) (id : ClassId) (nested : Context → Emit (List Section))

theorem superclassName_eq (base : ClassId) :
    superclassName graph id base = perform graph (·.superclassName id base) := by
  rw [superclassName, inBody_perform]
  exact perform_congr fun c hc => by rw [Context.superclassName, hc]

theorem kotlinSupertype_eq (inherited : List Property) (base? : Option ClassId) :
    kotlinSupertype graph id inherited base? =
      perform graph (Kotlin.superclassCall · id inherited base?) := by
  cases base? with
  | none => rfl
  | some base =>
    simp only [kotlinSupertype, superclassName_eq, perform_pure graph, perform_bind]
    rfl

theorem kotlinDeclaration_eq :
    kotlinDeclaration graph id (perform graph nested) =
      perform graph fun c => Kotlin.declaration c id (nested c) := by
  simp only [kotlinDeclaration, kotlinSupertype_eq, perform_bind, perform_pure graph]
  refine perform_congr fun c hc => ?_
  subst hc
  by_cases equality : Kotlin.writesEquality (c.graph.get id).kind <;>
    simp [Kotlin.declaration, equality]

theorem javaExtension_eq (base? : Option ClassId) :
    javaExtension graph id base? = perform graph fun c =>
      match base? with
      | some base => do
        let name ← c.superclassName id base
        pure (" extends " ++ name)
      | none => pure "" := by
  cases base? with
  | none => rfl
  | some base =>
    simp only [javaExtension, superclassName_eq, perform_pure graph, perform_bind]

theorem javaDeclaration_eq :
    javaDeclaration graph id (perform graph nested) =
      perform graph fun c => Java.declaration c id (nested c) := by
  simp only [javaDeclaration, javaExtension_eq, perform_bind, perform_pure graph]
  refine perform_congr fun c hc => ?_
  subst hc
  by_cases equality : Java.writesEquality (c.graph.get id).kind <;>
    cases base : c.superclass? id <;> simp [Java.declaration, equality, base]

theorem pythonDeclaration_eq :
    pythonDeclaration graph id (perform graph nested) =
      perform graph fun c => Python.declaration c id (nested c) := by
  simp only [pythonDeclaration, perform_bind]
  refine perform_congr fun c hc => ?_
  subst hc
  by_cases plain : (c.graph.get id).kind = .plain <;>
    cases base : c.superclass? id <;> simp [Python.declaration, plain, base]

theorem renderClass_eq :
    renderClass graph id (perform graph nested) =
      perform graph fun c => c.declarationText id (nested c) := by
  refine perform_read fun language => ?_
  cases language <;>
    simp only [kotlinDeclaration_eq, javaDeclaration_eq, pythonDeclaration_eq, perform_map] <;>
    exact ⟨_, rfl, fun c _ isLanguage => by rw [Context.declarationText, isLanguage]⟩

end

mutual

theorem classText_body (context : Context) (body : Option ClassId) (tree : ClassTree) :
    { context with body }.classText tree = context.classText tree := by
  obtain ⟨id, nested⟩ := tree
  simp only [Context.classText, Context.within, nestedSections_body context body nested]

/-- The texts of nested classes do not depend on the class in whose body they are put. -/
theorem nestedSections_body (context : Context) (body : Option ClassId) (trees : List ClassTree) :
    { context with body }.nestedSections trees = context.nestedSections trees := by
  cases trees with
  | nil => rfl
  | cons tree rest =>
    simp only [Context.nestedSections, classText_body context body tree,
      nestedSections_body context body rest]
    rfl

end

mutual

/-- A backend writes a class as it is written in the place where the backend stands. -/
theorem renderScoped_eq (graph : ClassGraph) (tree : ClassTree) :
    renderScoped graph tree = perform graph (·.classText tree) := by
  obtain ⟨id, nested⟩ := tree
  rw [renderScoped, renderNested_eq graph nested, renderClass_eq, inBody_perform]
  simp only [nestedSections_body]
  rfl

theorem renderNested_eq (graph : ClassGraph) (trees : List ClassTree) :
    renderNested graph trees = perform graph (·.nestedSections trees) := by
  cases trees with
  | nil => rfl
  | cons tree rest =>
    refine perform_read fun apart => ?_
    cases apart <;>
      simp only [renderScoped_eq graph tree, renderNested_eq graph rest, perform_pure graph,
        perform_bind, Bool.false_eq_true, if_true, if_false] <;>
      exact ⟨_, rfl, fun c _ isApart => by simp [Context.nestedSections, isApart]⟩

end

theorem moduleBlocks_eq (graph : ClassGraph) (id : ClassId) :
    moduleBlocks graph id = perform graph (SchemaClasses.moduleBlocks · id) := by
  simp only [moduleBlocks, renderScoped_eq, perform_pure graph, perform_bind, perform_mapM]
  exact perform_congr fun c hc => by rw [SchemaClasses.moduleBlocks, hc]

theorem renderBody_eq (graph : ClassGraph) (id : ClassId) :
    renderBody graph id = perform graph (·.fileBody id) := by
  refine perform_read fun language => ?_
  cases language <;>
    simp only [moduleBlocks_eq, renderScoped_eq, perform_pure graph, perform_bind] <;>
    exact ⟨_, rfl, fun c isGraph isLanguage => by simp [Context.fileBody, isLanguage, isGraph]⟩

/-! ## Files -/

/-- A backend begins a file without requirements and outside of all classes, and then does what
writes the file of a class. -/
theorem generate_eq (graph : ClassGraph) (id : ClassId) (backend : Backend) :
    (generate graph id).run backend =
      match (Context.writeFile (backend.context graph) id).run {} with
      | .ok text needs => .ok text { backend with needs, file := some id, body := none }
      | .error failure needs =>
        .error failure { backend with needs, file := some id, body := none } := by
  have begun : generate graph id = (do
      modify fun backend => { backend with needs := {}, file := some id, body := none }
      perform graph fun c => do
        let body ← c.fileBody id
        let imports ← importLines c.language
        return fileHead c (graph.get id) imports ++ body) := by
    simp only [generate, renderBody_eq, perform_bind]
  have written : Context.writeFile (context { backend with file := some id, body := none } graph)
      id backend.needs = (Context.writeFile (backend.context graph) id).run {} := rfl
  rw [begun]
  change perform graph (·.writeFile id) { backend with file := some id, body := none } = _
  simp only [perform, written]
  cases (Context.writeFile (backend.context graph) id).run {} <;> rfl

section

variable (backend : Backend) (graph : ClassGraph) (id : ClassId)

/-- The text of a file does not depend on what a backend has kept. -/
theorem call_fst :
    (backend.call graph id).1 = fileText graph backend.settings backend.language id := by
  have written : fileText graph backend.settings backend.language id =
      match (Context.writeFile (backend.context graph) id).run {} with
      | .ok text _ => .ok text
      | .error failure _ => .error failure := rfl
  rw [call, generate_eq, written]
  cases (Context.writeFile (backend.context graph) id).run {} <;> rfl

/-- A backend keeps its language and settings, and what the last file requires. -/
theorem call_snd :
    ∃ needs, (backend.call graph id).2 = { backend with needs, file := some id, body := none } := by
  rw [call, generate_eq]
  cases (Context.writeFile (backend.context graph) id).run {} <;> exact ⟨_, rfl⟩

/-- Calls on whatever classes leave the language and the settings of a backend as they are. -/
theorem afterCalls_kept (calls : List (ClassGraph × ClassId)) :
    (backend.afterCalls calls).language = backend.language ∧
      (backend.afterCalls calls).settings = backend.settings := by
  induction calls generalizing backend with
  | nil => exact ⟨rfl, rfl⟩
  | cons first rest ih =>
    obtain ⟨needs, kept⟩ := backend.call_snd first.1 first.2
    have step : backend.afterCalls (first :: rest) =
        (backend.call first.1 first.2).2.afterCalls rest := rfl
    rw [step, kept]
    exact ih _

/-- A backend that has been called on classes of any graphs, with success or not, gives the same
text of a file, or the same failure, as a new one. -/
theorem call_afterCalls (calls : List (ClassGraph × ClassId)) :
    ((backend.afterCalls calls).call graph id).1 =
      (Backend.call { language := backend.language, settings := backend.settings } graph id).1 := by
  obtain ⟨language, settings⟩ := backend.afterCalls_kept calls
  rw [call_fst, call_fst, language, settings]

end

/-- The outcome of two pieces of work is that of the second one after the first. -/
theorem outcome_bind (work : Work α) (next : α → Work β) (backend : Backend) :
    outcome ((work >>= next).run backend) =
      match work.run backend with
      | .ok a after => outcome ((next a).run after)
      | .error failure _ => .error failure := by
  change outcome (EStateM.bind work next backend) = _
  rw [EStateM.bind, EStateM.run]
  cases work backend <;> rfl

theorem outcome_perform_bind (graph : ClassGraph) (result : Context → Except Failure α)
    (next : α → Work β) (backend : Backend) :
    outcome (((perform graph fun c => Emit.ofExcept (result c)) >>= next).run backend) =
      result (backend.context graph) >>= fun a => outcome ((next a).run backend) := by
  rw [outcome_bind]
  cases given : result (backend.context graph) <;>
    simp only [EStateM.run, perform, given] <;> rfl

/-- The next step begins with the text of the file, and with a backend of the same language and
settings. -/
theorem outcome_generate_bind (graph : ClassGraph) (id : ClassId) (next : String → Work β)
    (backend : Backend) :
    ∃ after : Backend, after.language = backend.language ∧ after.settings = backend.settings ∧
      outcome ((generate graph id >>= next).run backend) =
        fileText graph backend.settings backend.language id >>= fun text =>
          outcome ((next text).run after) := by
  obtain ⟨needs, kept⟩ := backend.call_snd graph id
  refine ⟨(backend.call graph id).2, by rw [kept], by rw [kept], ?_⟩
  rw [outcome_bind, ← call_fst, call]
  cases (generate graph id).run backend <;> rfl

/-- The files that one backend writes, one after the other, are the files of the run. -/
theorem outcome_renderFiles (backend : Backend) (graph : ClassGraph)
    (rendered : List (Target × String)) (ids : List ClassId) :
    outcome ((renderFiles graph rendered ids).run backend) =
      renderClasses graph backend.settings backend.language rendered ids := by
  induction ids generalizing backend rendered with
  | nil => rfl
  | cons id rest ih =>
    rw [renderFiles, outcome_perform_bind, renderClasses]
    refine bind_congr fun ignored => ?_
    cases ignored with
    | true => exact ih backend rendered
    | false =>
      obtain ⟨after, language, settings, written⟩ :=
        outcome_generate_bind graph id (fun text => do
          let target ← perform graph fun c => Emit.ofExcept do
            (← targetOf c.language c.settings (graph.get id).name).distinguishable
          renderFiles graph (setTarget target text rendered) rest) backend
      simp only [Bool.false_eq_true, if_false]
      rw [written]
      refine bind_congr fun text => ?_
      simp only [outcome_perform_bind, context, ih, language, settings, bind_assoc]

end SchemaClasses.Backend
