import Mathlib.Data.List.Forall2
import SchemaClasses.Proofs.Build.Sound

/-!
# Traces

What a builder does to the state is a sequence of steps, whether it succeeds or fails. When it
succeeds, all classes that it has declared are complete.

## Main definitions

* `Finished`: the classes that are new in a state are complete.
* `Done`: what a builder that succeeds does to the state.
* `Build.Traces`: what a builder does is a sequence of steps.
-/

namespace SchemaClasses

def Finished (s s' : BuildState) : Prop :=
  ∀ id, s.graph.size ≤ id → id < s'.graph.size → (s'.graph.get id).built

theorem Finished.of_size_eq {s s' : BuildState} (size : s'.graph.size = s.graph.size) :
    Finished s s' :=
  fun _ le lt => absurd lt (Nat.not_lt.2 (size ▸ le))

theorem Finished.trans {floor : ClassId} {s s' s'' : BuildState} (h : Finished s s')
    (h' : Finished s' s'') (kept : Kept floor s' s'') : Finished s s'' := by
  intro id le lt
  rcases Nat.lt_or_ge id s'.graph.size with lt' | ge
  · exact kept.built (h id le lt')
  · exact h' id ge lt

/-- What a builder that succeeds does to the state: it takes steps that fill no class before
`floor`, and its new classes are complete. -/
structure Done (source : Source) (floor : ClassId) (s s' : BuildState) : Prop
    extends Kept floor s s' where
  steps : Steps source floor s s'
  finished : Finished s s'

namespace Done

variable {source : Source} {floor id : ClassId} {s s' s'' : BuildState}

theorem refl (source : Source) (floor : ClassId) (s : BuildState) : Done source floor s s :=
  ⟨.refl floor s, .refl, .of_size_eq rfl⟩

theorem trans (h : Done source floor s s') (h' : Done source floor s' s'') :
    Done source floor s s'' :=
  ⟨h.toKept.trans h'.toKept, h.steps.trans h'.steps, h.finished.trans h'.finished h'.toKept⟩

theorem of_le {floor' : ClassId} (h : Done source floor' s s') (le : floor ≤ floor') :
    Done source floor s s' :=
  have steps := h.steps.of_le le
  ⟨steps.kept, steps, h.finished⟩

/-- The classes after one that was being built are complete again. -/
theorem later (h : Done source floor s s') (active : s.IsActive id) {other : ClassId}
    (lt : id < other) (inside : other < s'.graph.size) : (s'.graph.get other).built := by
  rcases Nat.lt_or_ge other s.graph.size with old | new
  · exact h.built (active.later other lt old)
  · exact h.finished other new inside

/-- The class that was being built is being built again, if it is not complete. -/
theorem active_of_pending (h : Done source floor s s') (active : s.IsActive id)
    (pending : ¬(s'.graph.get id).built) : s'.IsActive id where
  inside := Nat.lt_of_lt_of_le active.inside h.size_le
  pending := pending
  later _ lt inside := h.later active lt inside

theorem active (h : Done source floor s s') (active : s.IsActive id) (below : id < floor) :
    s'.IsActive id := by
  refine h.active_of_pending active ?_
  rw [(h.content active.inside below).built]
  exact active.pending

end Done

namespace Build

variable {α β : Type}

/-- What a builder does from a state is a sequence of steps that fills no class before `floor`. When
it succeeds, the new classes are complete, and its result satisfies `Q`. -/
def Traces (source : Source) (floor : ClassId) (s : BuildState) (step : Build α)
    (Q : α → BuildState → Prop) : Prop :=
  match step s with
  | .ok x s' => Steps source floor s s' ∧ Finished s s' ∧ Q x s'
  | .error _ s' => Steps source floor s s'

namespace Traces

variable {source : Source} {floor floor' : ClassId} {s s' : BuildState} {step : Build α}
  {next : α → Build β} {P : α → BuildState → Prop} {Q : β → BuildState → Prop}

theorem of_ok (h : Traces source floor s step P) {x : α} (run : step s = .ok x s') :
    Steps source floor s s' ∧ Finished s s' ∧ P x s' := by
  unfold Traces at h
  rwa [run] at h

theorem of_error (h : Traces source floor s step P) {failure : Failure}
    (run : step s = .error failure s') : Steps source floor s s' := by
  unfold Traces at h
  rwa [run] at h

theorem pure {x : α} (h : P x s) : Traces source floor s (Pure.pure x) P :=
  ⟨.refl, .of_size_eq rfl, h⟩

theorem throw (failure : Failure) : Traces source floor s (throw failure : Build α) P :=
  Relation.ReflTransGen.refl

theorem unsupported (path construct : String) :
    Traces source floor s (Build.unsupported path construct : Build α) P :=
  .throw _

theorem ofExcept {e : Except Failure α} (h : ∀ x, e = .ok x → P x s) :
    Traces source floor s (Build.ofExcept e) P := by
  cases e with
  | ok x => exact .pure (h x rfl)
  | error failure => exact .throw failure

theorem mono {P' : α → BuildState → Prop} (h : Traces source floor' s step P)
    (le : floor ≤ floor') (imp : ∀ x s', P x s' → P' x s') : Traces source floor s step P' := by
  unfold Traces at h ⊢
  cases run : step s with
  | ok x s' =>
    rw [run] at h
    exact ⟨h.1.of_le le, h.2.1, imp x s' h.2.2⟩
  | error failure s' =>
    rw [run] at h
    exact Steps.of_le h le

/-- What follows from the result in a sound state. -/
theorem post {P' : α → BuildState → Prop} (h : Traces source floor s step P)
    (sound : s.Sound source)
    (imp : ∀ x s', s'.Sound source → Done source floor s s' → P x s' → P' x s') :
    Traces source floor s step P' := by
  unfold Traces at h ⊢
  cases run : step s with
  | ok x s' =>
    rw [run] at h
    obtain ⟨steps, finished, result⟩ := h
    exact ⟨steps, finished,
      imp x s' (steps.sound sound) ⟨steps.kept, steps, finished⟩ result⟩
  | error failure s' =>
    rwa [run] at h

/-- The rest of a step goes on from the state in which its first part ends. -/
theorem bind (sound : s.Sound source) (h : Traces source floor' s step P) (le : floor ≤ floor')
    (k : ∀ x s', s'.Sound source → Done source floor' s s' → P x s' →
      Traces source floor s' (next x) Q) : Traces source floor s (step >>= next) Q := by
  unfold Traces at h ⊢
  rw [bind_apply]
  cases run : step s with
  | error failure s' =>
    rw [run] at h
    exact Steps.of_le h le
  | ok x s' =>
    rw [run] at h
    obtain ⟨steps, finished, post⟩ := h
    have rest := k x s' (steps.sound sound) ⟨steps.kept, steps, finished⟩ post
    unfold Traces at rest
    simp only
    cases run' : next x s' with
    | error failure s'' =>
      rw [run'] at rest
      exact (steps.of_le le).trans rest
    | ok y s'' =>
      rw [run'] at rest
      obtain ⟨steps', finished', post'⟩ := rest
      exact ⟨(steps.of_le le).trans steps', finished.trans finished' steps'.kept, post'⟩

theorem ofExcept_bind {e : Except Failure α}
    (k : ∀ x, e = .ok x → Traces source floor s (next x) Q) :
    Traces source floor s (Build.ofExcept e >>= next) Q := by
  cases e with
  | ok x => exact k x rfl
  | error failure => exact .throw failure

theorem graph_bind {next : ClassGraph → Build β} (k : Traces source floor s (next s.graph) Q) :
    Traces source floor s (Build.graph >>= next) Q := k

theorem get_bind {next : BuildState → Build β} (k : Traces source floor s (next s) Q) :
    Traces source floor s (get >>= next) Q := k

/-- A builder that takes one step and declares no class. -/
theorem of_step {x : α} (run : step s = .ok x s') (h : Step source floor s s')
    (size : s'.graph.size = s.graph.size) (post : P x s') : Traces source floor s step P := by
  unfold Traces
  rw [run]
  exact ⟨.single h, .of_size_eq size, post⟩

/-- Filling a class that belongs to the builder. -/
theorem updateClass {id : ClassId} {f : ClassModel → ClassModel} {P : Unit → BuildState → Prop}
    (owned : floor ≤ id) (active : s.IsActive id)
    (filling : Filling source s.graph id (f (s.graph.get id))) (post : P () (s.change id f)) :
    Traces source floor s (Build.updateClass id f) P :=
  of_step rfl (.fill owned active filling) (s.change_size id f) post

/-- A builder that declares one class and goes on until it is complete. -/
theorem of_declare {step' : Build α} (run : step s = step' s') (h : Step source floor s s')
    (size : s'.graph.size = s.graph.size + 1)
    (rest : Traces source floor s' step' fun x t => (t.graph.get s.graph.size).built ∧ P x t) :
    Traces source floor s step P := by
  unfold Traces at rest ⊢
  rw [run]
  cases run' : step' s' with
  | error failure t =>
    rw [run'] at rest
    exact .head h rest
  | ok x t =>
    rw [run'] at rest
    obtain ⟨steps, finished, built, post⟩ := rest
    refine ⟨.head h steps, fun id le lt => ?_, post⟩
    rcases Nat.eq_or_lt_of_le le with rfl | gt
    · exact built
    · exact finished id (size ▸ gt) lt

/-- Releasing a pointer is one more step. -/
theorem releasing (h : Traces source floor s step P) (pointer : String) :
    Traces source floor s (Build.releasing pointer step) fun _ _ => True := by
  unfold Traces at h ⊢
  unfold Build.releasing
  cases run : step s with
  | error failure s' =>
    rw [run] at h
    exact h.tail (.progress _)
  | ok x s' =>
    rw [run] at h
    exact ⟨h.1.tail (.progress _), h.2.1, trivial⟩

/-- The members of a list are built one after the other. -/
theorem mapM (sound : s.Sound source) {f : α → Build β} {R : α → β → Prop} {as : List α}
    (h : ∀ a ∈ as, ∀ s', s'.Sound source → Done source floor s s' →
      Traces source floor s' (f a) fun b _ => R a b) :
    Traces source floor s (as.mapM f) fun bs _ => List.Forall₂ R as bs := by
  induction as generalizing s with
  | nil =>
    rw [List.mapM_nil]
    exact .pure .nil
  | cons a rest ih =>
    rw [List.mapM_cons]
    refine bind sound (h a List.mem_cons_self s sound (.refl source floor s)) (Nat.le_refl _)
      fun b s₁ sound₁ done₁ first => ?_
    refine bind sound₁ (ih sound₁ fun a' mem s' sound' done =>
      h a' (List.mem_cons_of_mem a mem) s' sound' (done₁.trans done)) (Nat.le_refl _)
      fun bs s₂ _ _ others => ?_
    exact .pure (.cons first others)

end Traces

end Build

end SchemaClasses
