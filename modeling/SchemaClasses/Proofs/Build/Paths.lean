import SchemaClasses.Proofs.Build.Composition

/-!
# One class for each schema

Classes are found by the paths of their schemas. A class is only begun when there is none under its
path yet, and so schemas have one class each. Alternatives are the exception: the class of an
alternative is declared in its open base whatever stands under its path, which may be a class that a
reference to the alternative has led to before.

## Main definitions

* `BuildState.Paths`: which classes there are for a path.

## Main statements

* `Step.paths`: every step keeps the classes of different schemas apart.
-/

namespace SchemaClasses

structure BuildState.Paths (root : Node) (s : BuildState) : Prop where
  key : ∀ {path id}, s.classOf.lookup path = some id →
    id < s.graph.size ∧ (s.graph.get id).path = path
  entered : ∀ {id}, id < s.graph.size →
    ∃ latest, s.classOf.lookup (s.graph.get id).path = some latest ∧ id ≤ latest
  reached : ∀ {id}, id < s.graph.size → (s.graph.get id).kind ≠ .nestedVariant →
    ∃ node, root.Reached node ∧ isClassSchema node true = .ok true ∧
      (s.graph.get id).path = node.path
  alternative : ∀ {id}, (s.graph.get id).kind = .nestedVariant →
    ∃ base choice alternative, (s.graph.get id).base = some base ∧
      (s.graph.get base).path = choice.path ∧ root.HasAlternative choice alternative ∧
      (s.graph.get id).path = alternative.path
  variants : ∀ {id}, (s.graph.get id).built → (s.graph.get id).kind = .openBase →
    s.graph.HasVariants root id
  /-- Of two classes for a path, the later one is an alternative and the earlier one is not. -/
  unique : ∀ {a b}, a < b → b < s.graph.size → (s.graph.get a).path = (s.graph.get b).path →
    (s.graph.get a).kind ≠ .nestedVariant ∧ (s.graph.get b).kind = .nestedVariant

namespace BuildState.Paths

variable {root : Node} {s s' : BuildState}

/-- Without classes there are no paths of classes. -/
theorem of_empty (graph : s.graph.size = 0) (classOf : s.classOf = []) : s.Paths root := by
  have none (id : ClassId) : s.graph.get id = default := ClassGraph.get_of_size_le (by omega)
  refine ⟨fun found => ?_, fun inside => ?_, fun inside => ?_, fun kind => ?_, fun built => ?_,
    fun _ inside => ?_⟩
  · rw [classOf] at found
    cases found
  · exact absurd inside (by omega)
  · exact absurd inside (by omega)
  · rw [none] at kind
    cases kind
  · rw [none] at built
    cases built
  · exact absurd inside (by omega)

/-- Classes that are no alternatives have different paths. -/
theorem eq_of_path (h : s.Paths root) {a b : ClassId} (ha : a < s.graph.size)
    (hb : b < s.graph.size) (kindA : (s.graph.get a).kind ≠ .nestedVariant)
    (kindB : (s.graph.get b).kind ≠ .nestedVariant)
    (path : (s.graph.get a).path = (s.graph.get b).path) : a = b := by
  rcases Nat.lt_trichotomy a b with lt | eq | gt
  · exact absurd (h.unique lt hb path).2 kindB
  · exact eq
  · exact absurd (h.unique gt ha path.symm).2 kindA

/-- Paths stay when a step keeps the shape of the state, the alternatives and their bases. -/
theorem of_sameShape (h : s.Paths root) (same : SameShape s s')
    (kind : ∀ id, (s'.graph.get id).kind = .nestedVariant ↔
      (s.graph.get id).kind = .nestedVariant)
    (base : ∀ id, (s.graph.get id).kind = .nestedVariant →
      (s'.graph.get id).base = (s.graph.get id).base)
    (variants : ∀ id, (s'.graph.get id).built → (s'.graph.get id).kind = .openBase →
      s.graph.HasVariants root id) : s'.Paths root := by
  have path (id : ClassId) := (same.declaration id).path
  refine ⟨fun {path' id} found => ?_, fun {id} inside => ?_, fun {id} inside isOther => ?_,
    fun {id} isVariant => ?_, fun {id} built isOpen choice alternative isAlternative eq => ?_,
    fun {a b} lt inside eq => ?_⟩
  · rw [same.classOf] at found
    rw [same.size, path]
    exact h.key found
  · rw [same.size] at inside
    rw [same.classOf, path]
    exact h.entered inside
  · rw [same.size] at inside
    rw [path]
    exact h.reached inside (mt (kind id).2 isOther)
  · have isVariant' := (kind id).1 isVariant
    rw [base id isVariant', path]
    obtain ⟨base', choice, alternative, found, rest⟩ := h.alternative isVariant'
    refine ⟨base', choice, alternative, found, ?_⟩
    rw [path]
    exact rest
  · rw [path] at eq
    obtain ⟨variant, isVariant, isBase, eq'⟩ := variants id built isOpen isAlternative eq
    refine ⟨variant, (kind variant).2 isVariant, (base variant isVariant).trans isBase, ?_⟩
    rw [path]
    exact eq'
  · rw [same.size] at inside
    rw [path, path] at eq
    obtain ⟨kindA, kindB⟩ := h.unique lt inside eq
    exact ⟨mt (kind a).1 kindA, (kind b).2 kindB⟩

section

variable {model : ClassModel} (inside : ∀ outer ∈ model.enclosing, outer < s.graph.size)

include inside

/-- The new class is the latest one under its path. -/
theorem key_declare (h : s.Paths root) {path : String} {id : ClassId}
    (found : (s.declare model).classOf.lookup path = some id) :
    id < (s.declare model).graph.size ∧ ((s.declare model).graph.get id).path = path := by
  rw [BuildState.declare_classOf, lookup_setMember] at found
  rw [BuildState.declare_size]
  split at found
  · rename_i eq
    cases found
    rw [s.declare_get_size inside]
    exact ⟨Nat.lt_succ_self _, eq.symm⟩
  · obtain ⟨lt, eq⟩ := h.key found
    rw [(s.declare_same inside (Nat.ne_of_lt lt)).1.path]
    exact ⟨Nat.lt_succ_of_lt lt, eq⟩

/-- Each class, the new one included, is found under its path, or a later one is. -/
theorem entered_declare (h : s.Paths root) {id : ClassId}
    (lt : id < (s.declare model).graph.size) : ∃ latest,
      (s.declare model).classOf.lookup ((s.declare model).graph.get id).path = some latest ∧
        id ≤ latest := by
  rw [BuildState.declare_classOf, lookup_setMember]
  by_cases ne : id = s.graph.size
  · subst ne
    rw [s.declare_get_size inside, if_pos rfl]
    exact ⟨s.graph.size, rfl, Nat.le_refl _⟩
  · have old := s.lt_size_of_lt_declare_size lt ne
    rw [(s.declare_same inside ne).1.path]
    split
    · exact ⟨s.graph.size, rfl, Nat.le_of_lt old⟩
    · exact h.entered old

/-- Of two classes of one path, the later one is an alternative and the earlier one is not. -/
theorem unique_declare (h : s.Paths root)
    (unique : ∀ id, id < s.graph.size → (s.graph.get id).path = model.path →
      (s.graph.get id).kind ≠ .nestedVariant ∧ model.kind = .nestedVariant) {a b : ClassId}
    (lt : a < b) (ltSize : b < (s.declare model).graph.size)
    (path : ((s.declare model).graph.get a).path = ((s.declare model).graph.get b).path) :
    ((s.declare model).graph.get a).kind ≠ .nestedVariant ∧
      ((s.declare model).graph.get b).kind = .nestedVariant := by
  have ltA := Nat.lt_of_lt_of_le lt (Nat.le_of_lt_succ (by simpa using ltSize))
  obtain ⟨declaration, content⟩ := s.declare_same inside (Nat.ne_of_lt ltA)
  rw [declaration.path] at path
  rw [content.kind]
  by_cases ne : b = s.graph.size
  · subst ne
    rw [s.declare_get_size inside] at path ⊢
    exact unique a ltA path
  · obtain ⟨declaration', content'⟩ := s.declare_same inside ne
    rw [declaration'.path] at path
    rw [content'.kind]
    exact h.unique lt (s.lt_size_of_lt_declare_size ltSize ne) path

/-- The alternatives of a complete open base stay in it. -/
theorem hasVariants_declare {id : ClassId} (ne : id ≠ s.graph.size)
    (h : s.graph.HasVariants root id) : (s.declare model).graph.HasVariants root id := by
  intro choice alternative isAlternative path
  rw [(s.declare_same inside ne).1.path] at path
  obtain ⟨variant, kind, isBase, path'⟩ := h isAlternative path
  have old := Nat.ne_of_lt (ClassGraph.lt_size_of_variant kind)
  obtain ⟨declaration, content⟩ := s.declare_same inside old
  exact ⟨variant, content.kind.trans kind, content.base.trans isBase, declaration.path.trans path'⟩

/-- A class is declared whose path has no class, or no other class of an alternative. -/
theorem declare (h : s.Paths root) (founded : s.graph.Founded (·.base))
    (reached : model.kind ≠ .nestedVariant → ∃ node, root.Reached node ∧
      isClassSchema node true = .ok true ∧ model.path = node.path)
    (alternative : model.kind = .nestedVariant → ∃ base choice alternative,
      base < s.graph.size ∧ model.base = some base ∧ (s.graph.get base).path = choice.path ∧
      root.HasAlternative choice alternative ∧ model.path = alternative.path)
    (pending : model.built = false)
    (unique : ∀ id, id < s.graph.size → (s.graph.get id).path = model.path →
      (s.graph.get id).kind ≠ .nestedVariant ∧ model.kind = .nestedVariant) :
    (s.declare model).Paths root := by
  have self := s.declare_get_size inside
  have samePath {id : ClassId} (ne : id ≠ s.graph.size) := (s.declare_same inside ne).1.path
  have same {id : ClassId} (ne : id ≠ s.graph.size) := (s.declare_same inside ne).2
  refine ⟨h.key_declare inside, h.entered_declare inside, fun {id} lt kind => ?_,
    fun {id} kind => ?_, fun {id} built isOpen => ?_, h.unique_declare inside unique⟩
  · by_cases ne : id = s.graph.size
    · subst ne
      rw [self] at kind ⊢
      exact reached kind
    · rw [(same ne).kind] at kind
      rw [samePath ne]
      exact h.reached (s.lt_size_of_lt_declare_size lt ne) kind
  · by_cases ne : id = s.graph.size
    · subst ne
      rw [self] at kind ⊢
      obtain ⟨base, choice, alternative, lt, isBase, path, isAlternative, same'⟩ := alternative kind
      refine ⟨base, choice, alternative, isBase, ?_, isAlternative, same'⟩
      rw [samePath (Nat.ne_of_lt lt)]
      exact path
    · rw [(same ne).kind] at kind
      obtain ⟨base, choice, alternative, isBase, path, isAlternative, same'⟩ := h.alternative kind
      rw [samePath ne, (same ne).base]
      refine ⟨base, choice, alternative, isBase, ?_, isAlternative, same'⟩
      rw [samePath (Nat.ne_of_lt (founded.lt_size isBase))]
      exact path
  · by_cases ne : id = s.graph.size
    · subst ne
      rw [self, pending] at built
      cases built
    · rw [(same ne).built] at built
      rw [(same ne).kind] at isOpen
      exact hasVariants_declare inside ne (h.variants built isOpen)

end

end BuildState.Paths

/-! ## Steps -/

section

variable {source : Source} {floor : ClassId} {s s' : BuildState}

/-- Filling a class does not make it an alternative, nor changes the base of one. -/
theorem Filling.sameVariant {id : ClassId} {model : ClassModel}
    (h : Filling source s.graph id model) :
    (model.kind = .nestedVariant ↔ (s.graph.get id).kind = .nestedVariant) ∧
      ((s.graph.get id).kind = .nestedVariant → model.base = (s.graph.get id).base) := by
  cases h with
  | openBase blank => simp [blank.kind]
  | @plain properties blank =>
    rcases kindFor_eq properties with eq | eq <;> simp [blank.kind, eq]
  | @extend _ base own blank =>
    rcases kindFor_eq (s.graph.allProperties base ++ own) with eq | eq <;> simp [blank.kind, eq]
  | _ => exact ⟨Iff.rfl, fun _ => rfl⟩

/-- An open base is complete when all its alternatives have been declared. -/
theorem Filling.hasVariants {id : ClassId} {model : ClassModel}
    (h : Filling source s.graph id model) (paths : s.Paths source.root) (built : model.built)
    (isOpen : model.kind = .openBase) : s.graph.HasVariants source.root id := by
  cases h with
  | openBase blank => exact absurd built (by simp [blank.built])
  | share kind => exact paths.variants built kind
  | variant kind => exact absurd (kind.symm.trans isOpen) (by simp)
  | @plain properties =>
    rcases kindFor_eq properties with eq | eq <;> exact absurd (eq.symm.trans isOpen) (by simp)
  | @extend _ base own =>
    rcases kindFor_eq (s.graph.allProperties base ++ own) with eq | eq <;>
      exact absurd (eq.symm.trans isOpen) (by simp)
  | complete _ _ variants => exact variants isOpen

/-- Every step keeps the classes of different schemas apart. -/
theorem Step.paths (distinct : source.root.value.distinctKeys) (top : source.root.path = "")
    (step : Step source floor s s') (h : s.Paths source.root)
    (composition : s.graph.Composition source.root) : s'.Paths source.root := by
  cases step with
  | progress inProgress =>
    exact h.of_sameShape (.progress s inProgress) (fun _ => Iff.rfl) (fun _ _ => rfl)
      fun _ => h.variants
  | @declare node _ name referencing enclosing reserved reached isClass fresh _ _ inside =>
    obtain ⟨owners, eq⟩ := s.begin_eq reserved (blankClass source node name enclosing) referencing
    have taken : BuildState.Paths source.root { s with reserved } :=
      ⟨h.key, h.entered, h.reached, h.alternative, h.variants, h.unique⟩
    let model := blankClass source node name enclosing
    have unused (id : ClassId) (lt : id < s.graph.size) : (s.graph.get id).path ≠ model.path := by
      intro path
      obtain ⟨latest, found, -⟩ := h.entered lt
      rw [path, show model.path = node.path from rfl, fresh] at found
      cases found
    have declared : BuildState.Paths source.root (BuildState.declare { s with reserved } model) :=
      taken.declare inside composition.founded (fun _ => ⟨node, reached, isClass, rfl⟩)
        (fun kind => by cases kind) rfl fun id lt path => absurd path (unused id lt)
    rw [eq]
    exact ⟨declared.key, declared.entered, declared.reached, declared.alternative,
      declared.variants, declared.unique⟩
  | @variant choice alternative base name _ active kind path isAlternative _ _ fresh =>
    have inside := active.inside
    refine h.declare (by simpa [variantClass]) composition.founded (fun other => absurd rfl other)
      (fun _ => ⟨base, choice, alternative, inside, rfl, path, isAlternative, rfl⟩) rfl
      fun id lt same => ⟨fun isVariant => ?_, rfl⟩
    -- Another class of the alternative would stand in the same open base.
    obtain ⟨base', choice', alternative', isBase, path', isAlternative', same'⟩ :=
      h.alternative isVariant
    obtain ⟨rfl, -⟩ := isAlternative'.unique distinct top isAlternative (same'.symm.trans same)
    have kind' : (s.graph.get base').kind ≠ .nestedVariant := by
      rcases composition.base isBase with old | old
      · simp [old.baseKind]
      · rcases old.baseKind with eq | eq <;> simp [eq]
    have eq := h.eq_of_path (composition.founded.lt_size isBase) inside kind' (by simp [kind])
      (path'.trans path.symm)
    exact fresh id (eq ▸ isBase) same
  | @fill id f _ active filling =>
    have inside := active.inside
    refine h.of_sameShape (.fill inside filling) (fun other => ?_) (fun other => ?_)
      (fun other => ?_) <;> by_cases eq : other = id
    · subst eq
      rw [s.change_get_self inside]
      exact filling.sameVariant.1
    · rw [s.change_get_of_ne eq]
    · subst eq
      rw [s.change_get_self inside]
      exact filling.sameVariant.2
    · rw [s.change_get_of_ne eq]
      exact fun _ => rfl
    · subst eq
      rw [s.change_get_self inside]
      exact filling.hasVariants h
    · rw [s.change_get_of_ne eq]
      exact h.variants
  | @enum owner definition active =>
    have inside := active.inside
    refine h.of_sameShape (.enum inside) (fun other => ?_) (fun other _ => ?_) (fun other => ?_) <;>
      obtain ⟨enums, eq⟩ := s.change_enums_get definition inside other <;> rw [eq]
    exact h.variants

end

end SchemaClasses
