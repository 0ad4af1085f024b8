/-!
# Checked results

What the parts of a checked computation have given when the whole has succeeded.
-/

namespace SchemaClasses

variable {ε α β : Type}

theorem Except.bind_eq_ok_iff {x : Except ε α} {f : α → Except ε β} {b : β} :
    x >>= f = .ok b ↔ ∃ a, x = .ok a ∧ f a = .ok b := by
  cases x <;> simp [bind, Except.bind]

theorem Except.bind_eq_error_iff {x : Except ε α} {f : α → Except ε β} {e : ε} :
    x >>= f = .error e ↔ x = .error e ∨ ∃ a, x = .ok a ∧ f a = .error e := by
  cases x <;> simp [bind, Except.bind]

theorem Except.map_eq_ok_iff {x : Except ε α} {f : α → β} {b : β} :
    f <$> x = .ok b ↔ ∃ a, x = .ok a ∧ f a = b := by
  cases x <;> simp [Functor.map, Except.map]

/-- A checked result that passes a test is there. -/
theorem Except.exists_of_any {x : Except ε α} {p : α → Bool} (h : x.toOption.any p) :
    ∃ a, x = .ok a ∧ p a := by
  cases x with
  | ok a => exact ⟨a, rfl, h⟩
  | error e => cases h

/-- Every result of a list of checked steps is that of one of the steps. -/
theorem Except.mem_of_mapM_eq_ok {f : α → Except ε β} {as : List α} {bs : List β}
    (h : as.mapM f = .ok bs) {b : β} (mem : b ∈ bs) : ∃ a ∈ as, f a = .ok b := by
  induction as generalizing bs with
  | nil =>
    rw [List.mapM_nil] at h
    cases h
    cases mem
  | cons a rest ih =>
    simp only [List.mapM_cons, Except.bind_eq_ok_iff] at h
    obtain ⟨first, hfirst, others, hothers, hbs⟩ := h
    cases hbs
    rcases List.mem_cons.1 mem with rfl | mem
    · exact ⟨a, List.mem_cons_self, hfirst⟩
    · obtain ⟨a', ha', hb⟩ := ih hothers mem
      exact ⟨a', List.mem_cons_of_mem a ha', hb⟩

/-- Every one of a list of checked steps has a result. -/
theorem Except.exists_of_mapM_eq_ok {f : α → Except ε β} {as : List α} {bs : List β}
    (h : as.mapM f = .ok bs) {a : α} (mem : a ∈ as) : ∃ b ∈ bs, f a = .ok b := by
  induction as generalizing bs with
  | nil => cases mem
  | cons first rest ih =>
    simp only [List.mapM_cons, Except.bind_eq_ok_iff] at h
    obtain ⟨b, hb, others, hothers, hbs⟩ := h
    cases hbs
    rcases List.mem_cons.1 mem with rfl | mem
    · exact ⟨b, List.mem_cons_self, hb⟩
    · obtain ⟨b', hb', given⟩ := ih hothers mem
      exact ⟨b', List.mem_cons_of_mem b hb', given⟩

/-- If every checked step keeps something, so does the list of them. -/
theorem Except.map_of_mapM_eq_ok {γ : Type} {f : α → Except ε β} {p : α → γ} {q : β → γ}
    (keeps : ∀ a b, f a = .ok b → q b = p a) {as : List α} {bs : List β}
    (h : as.mapM f = .ok bs) : bs.map q = as.map p := by
  induction as generalizing bs with
  | nil =>
    rw [List.mapM_nil] at h
    cases h
    rfl
  | cons a rest ih =>
    simp only [List.mapM_cons, Except.bind_eq_ok_iff] at h
    obtain ⟨first, hfirst, others, hothers, hbs⟩ := h
    cases hbs
    rw [List.map_cons, List.map_cons, keeps a first hfirst, ih hothers]

/-- A list of checked steps fails with the failure of one of them. -/
theorem Except.exists_of_mapM_eq_error {f : α → Except ε β} {as : List α} {e : ε}
    (h : as.mapM f = .error e) : ∃ a ∈ as, f a = .error e := by
  induction as with
  | nil => cases h
  | cons a rest ih =>
    rw [List.mapM_cons, Except.bind_eq_error_iff] at h
    rcases h with failed | ⟨b, -, h⟩
    · exact ⟨a, List.mem_cons_self, failed⟩
    · rcases Except.bind_eq_error_iff.1 h with failed | ⟨bs, -, h⟩
      · obtain ⟨a', mem, failed⟩ := ih failed
        exact ⟨a', List.mem_cons_of_mem a mem, failed⟩
      · cases h

/-- Checked steps succeed one after the other when each of them does. -/
theorem Except.exists_mapM_iff {f : α → Except ε β} {as : List α} :
    (∃ bs, as.mapM f = .ok bs) ↔ ∀ a ∈ as, ∃ b, f a = .ok b := by
  constructor
  · rintro ⟨bs, h⟩ a mem
    obtain ⟨b, -, given⟩ := Except.exists_of_mapM_eq_ok h mem
    exact ⟨b, given⟩
  · intro each
    induction as with
    | nil => exact ⟨[], rfl⟩
    | cons first rest ih =>
      obtain ⟨b, hb⟩ := each first List.mem_cons_self
      obtain ⟨bs, hbs⟩ := ih fun a mem => each a (List.mem_cons_of_mem first mem)
      exact ⟨b :: bs, by rw [List.mapM_cons, hb, hbs]; rfl⟩

/-- Steps that succeed with the same results. -/
theorem Except.mapM_eq_ok_of_imp {f g : α → Except ε β} {as : List α} {bs : List β}
    (imp : ∀ a b, f a = .ok b → g a = .ok b) (h : as.mapM f = .ok bs) : as.mapM g = .ok bs := by
  induction as generalizing bs with
  | nil => exact h
  | cons a rest ih =>
    simp only [List.mapM_cons, Except.bind_eq_ok_iff] at h ⊢
    obtain ⟨first, hfirst, others, hothers, hbs⟩ := h
    exact ⟨first, imp a first hfirst, others, ih hothers, hbs⟩

/-- Steps, one after the other, that succeed with the same results. -/
theorem Except.foldlM_eq_ok_of_imp {f g : β → α → Except ε β} {as : List α} {b c : β}
    (imp : ∀ b a c, f b a = .ok c → g b a = .ok c) (h : as.foldlM f b = .ok c) :
    as.foldlM g b = .ok c := by
  induction as generalizing b with
  | nil => exact h
  | cons a rest ih =>
    simp only [List.foldlM_cons, Except.bind_eq_ok_iff] at h ⊢
    obtain ⟨next, first, others⟩ := h
    exact ⟨next, imp b a next first, ih others⟩

end SchemaClasses
