import SchemaClasses.Proofs.Build.Step

/-!
# How classes are composed

A class has a base when it is an alternative, whose base is the open base around it, or when its
schema has `allOf`: then the base is complete. A class without a base, or with one, gets its
properties while no other class is composed from it, and so the properties of a class do not change
any more when another one is built on it.

## Main definitions

* `ClassGraph.Composition`: the bases, the properties and the kinds of classes.

## Main statements

* `Step.composition`: every step keeps it so.
-/

namespace SchemaClasses

/-- A class is an extension of another one: its schema has `allOf`, and the other class is
complete. -/
structure ClassGraph.IsExtension (root : Node) (graph : ClassGraph) (id base : ClassId) :
    Prop where
  kind : (graph.get id).kind = .plain ∨ (graph.get id).kind = .data
  schema : ∃ node, root.Within node ∧ (graph.get id).path = node.path ∧ node.has "allOf"
  complete : (graph.get base).built
  baseKind : (graph.get base).kind = .plain ∨ (graph.get base).kind = .data

structure ClassGraph.IsVariant (graph : ClassGraph) (id base : ClassId) : Prop where
  kind : (graph.get id).kind = .nestedVariant
  enclosing : (graph.get id).enclosing = some base
  baseKind : (graph.get base).kind = .openBase

structure ClassGraph.Composition (root : Node) (graph : ClassGraph) : Prop where
  founded : graph.Founded (·.base)
  base : ∀ {id base}, (graph.get id).base = some base →
    graph.IsVariant id base ∨ graph.IsExtension root id base
  variant : ∀ {id}, (graph.get id).kind = .nestedVariant → ∃ base, (graph.get id).base = some base
  distinct : ∀ {id}, id < graph.size → DistinctNames (graph.allProperties id)
  kind : ∀ {id}, id < graph.size →
    (graph.get id).kind = .plain ∨ (graph.get id).kind = .data →
    (graph.get id).Blank ∨ (graph.get id).kind = kindFor (graph.allProperties id)

/-- A class keeps its place among the composed classes when it and its base keep their kinds. -/
theorem ClassGraph.composed_of_same {root : Node} {graph graph' : ClassGraph} {id base : ClassId}
    (h : graph.IsVariant id base ∨ graph.IsExtension root id base)
    (declaration : (graph.get id).SameDeclaration (graph'.get id))
    (kind : (graph'.get id).kind = (graph.get id).kind)
    (baseKind : (graph'.get base).kind = (graph.get base).kind)
    (complete : (graph.get base).built → (graph'.get base).built) :
    graph'.IsVariant id base ∨ graph'.IsExtension root id base := by
  rcases h with variant | extension
  · exact .inl ⟨kind.trans variant.kind, declaration.enclosing.trans variant.enclosing,
      baseKind.trans variant.baseKind⟩
  · refine .inr ⟨?_, ?_, complete extension.complete, ?_⟩
    · rw [kind]
      exact extension.kind
    · rw [declaration.path]
      exact extension.schema
    · rw [baseKind]
      exact extension.baseKind

theorem ClassKind.plain_or_data {kind : ClassKind} (h : kind ≠ .openBase ∧ kind ≠ .nestedVariant) :
    kind = .plain ∨ kind = .data := by
  cases kind <;> simp_all

theorem ClassKind.ne_of_plain_or_data {kind : ClassKind} (h : kind = .plain ∨ kind = .data) :
    kind ≠ .openBase ∧ kind ≠ .nestedVariant := by
  rcases h with rfl | rfl <;> simp

theorem ClassGraph.lt_size_of_built {graph : ClassGraph} {id : ClassId}
    (h : (graph.get id).built) : id < graph.size := by
  refine Nat.lt_of_not_le fun le => ?_
  rw [get_of_size_le le] at h
  cases h

theorem ClassGraph.lt_size_of_variant {graph : ClassGraph} {id : ClassId}
    (h : (graph.get id).kind = .nestedVariant) : id < graph.size := by
  refine Nat.lt_of_not_le fun le => ?_
  rw [get_of_size_le le] at h
  cases h

theorem ClassGraph.lt_size_of_mem_enums {graph : ClassGraph} {id : ClassId} {definition : EnumDef}
    (h : definition ∈ (graph.get id).enums) : id < graph.size := by
  refine Nat.lt_of_not_le fun le => ?_
  rw [get_of_size_le le] at h
  cases h

theorem ClassGraph.lt_size_of_base {graph : ClassGraph} {id base : ClassId}
    (h : (graph.get id).base = some base) : id < graph.size := by
  refine Nat.lt_of_not_le fun le => ?_
  rw [get_of_size_le le] at h
  cases h

theorem kindFor_eq (properties : List Property) :
    kindFor properties = .plain ∨ kindFor properties = .data := by
  unfold kindFor
  split
  · exact .inl rfl
  · exact .inr rfl

namespace ClassGraph.Composition

variable {root : Node} {graph graph' : ClassGraph} {id : ClassId}

/-- Without classes nothing is composed. -/
theorem of_empty (h : graph.size = 0) : graph.Composition root := by
  have none (id : ClassId) : graph.get id = default := get_of_size_le (by omega)
  refine ⟨⟨fun found => ?_, ⟨fun id => .intro id fun base found => ?_⟩⟩, fun found => ?_,
    fun kind => ?_, fun inside => ?_, fun inside => ?_⟩
  · rw [none] at found
    cases found
  · rw [none] at found
    cases found
  · rw [none] at found
    cases found
  · rw [none] at kind
    cases kind
  · exact absurd inside (by omega)
  · exact absurd inside (by omega)

/-- A class that has not been filled is not the base of another one. -/
theorem unreached_of_blank (h : graph.Composition root) (blank : (graph.get id).Blank)
    (other : ClassId) : (graph.get other).base ≠ some id := by
  intro found
  rcases h.base found with variant | extension
  · have kind := variant.baseKind
    rw [blank.kind] at kind
    cases kind
  · have complete := extension.complete
    rw [blank.built] at complete
    cases complete

/-- An alternative is not the base of another class. -/
theorem unreached_of_variant (h : graph.Composition root)
    (kind : (graph.get id).kind = .nestedVariant) (other : ClassId) :
    (graph.get other).base ≠ some id := by
  intro found
  rcases h.base found with variant | extension
  · have baseKind := variant.baseKind
    rw [kind] at baseKind
    cases baseKind
  · have baseKind := extension.baseKind
    rw [kind] at baseKind
    rcases baseKind with baseKind | baseKind <;> cases baseKind

/-- The shapes of classes leave an open base without a base. -/
theorem base_of_openBase (h : graph.Composition root) (kind : (graph.get id).kind = .openBase) :
    (graph.get id).base = none := by
  cases hbase : (graph.get id).base with
  | none => rfl
  | some base =>
    rcases h.base hbase with variant | extension
    · have same := variant.kind
      rw [kind] at same
      cases same
    · have same := extension.kind
      rw [kind] at same
      rcases same with same | same <;> cases same

/-- Making classes complete does not change how they are composed. -/
theorem of_same (h : graph.Composition root) (size : graph'.size = graph.size)
    (declaration : ∀ id, (graph.get id).SameDeclaration (graph'.get id))
    (kind : ∀ id, (graph'.get id).kind = (graph.get id).kind)
    (base : ∀ id, (graph'.get id).base = (graph.get id).base)
    (properties : ∀ id, (graph'.get id).properties = (graph.get id).properties)
    (built : ∀ id, (graph.get id).built → (graph'.get id).built)
    (blank : ∀ id, (graph.get id).Blank → (graph'.get id).Blank) : graph'.Composition root := by
  have founded : graph'.Founded (·.base) := by
    refine ⟨fun found => ?_, ?_⟩
    · rw [base] at found
      rw [size]
      exact h.founded.lt_size found
    · simpa only [base] using h.founded.wellFounded
  have all := allProperties_congr size base properties
  refine ⟨founded, fun {id base'} found => ?_, fun {id} isVariant => ?_, fun {id} inside => ?_,
    fun {id} inside closed => ?_⟩
  · rw [base] at found
    exact composed_of_same (h.base found) (declaration id) (kind id) (kind base') (built base')
  · rw [kind] at isVariant
    rw [base]
    exact h.variant isVariant
  · rw [size] at inside
    rw [all]
    exact h.distinct inside
  · rw [size] at inside
    rw [kind] at closed ⊢
    rw [all]
    exact (h.kind inside closed).imp_left (blank id)

/-- A class from which no other one is composed may be made anything that is well composed. -/
theorem of_unreached (h : graph.Composition root) (le : graph.size ≤ graph'.size)
    (new : ∀ other, other < graph'.size → other ≠ id → other < graph.size)
    (declaration : ∀ other, other ≠ id → (graph.get other).SameDeclaration (graph'.get other))
    (content : ∀ other, other ≠ id → (graph.get other).SameContent (graph'.get other))
    (unreached : ∀ other, (graph.get other).base ≠ some id)
    (base : ∀ base, (graph'.get id).base = some base → base < graph.size ∧ base ≠ id ∧
      (graph'.IsVariant id base ∨ graph'.IsExtension root id base))
    (variant : (graph'.get id).kind = .nestedVariant → ∃ base, (graph'.get id).base = some base)
    {all : List Property} (eq : all =
      (graph'.get id).base.elim [] graph.allProperties ++ (graph'.get id).properties)
    (distinct : DistinctNames all)
    (kind : (graph'.get id).kind = .plain ∨ (graph'.get id).kind = .data →
      (graph'.get id).Blank ∨ (graph'.get id).kind = kindFor all) : graph'.Composition root := by
  have founded : graph'.Founded (·.base) := by
    refine h.founded.of_unreached le (fun other ne => (content other ne).base) unreached ?_
    intro other found
    obtain ⟨inside, ne, -⟩ := base other found
    exact ⟨Nat.lt_of_lt_of_le inside le, ne⟩
  have old {other : ClassId} (inside : other < graph.size) (ne : other ≠ id) :
      graph'.allProperties other = graph.allProperties other :=
    allProperties_of_unreached h.founded founded le (fun other _ ne =>
      ⟨(content other ne).base, (content other ne).properties⟩) unreached inside ne
  have self (inside : id < graph'.size) : graph'.allProperties id = all := by
    rw [eq, allProperties_eq founded inside]
    cases hbase : (graph'.get id).base with
    | none => rfl
    | some base' =>
      obtain ⟨inside, ne, -⟩ := base base' hbase
      rw [Option.elim_some, Option.elim_some, old inside ne]
  refine ⟨founded, fun {other base'} found => ?_, fun {other} isVariant => ?_,
    fun {other} inside => ?_, fun {other} inside closed => ?_⟩
  · by_cases ne : other = id
    · subst ne
      exact (base base' found).2.2
    · rw [(content other ne).base] at found
      have neBase : base' ≠ id := fun eq => unreached other (eq ▸ found)
      have sameBase := content base' neBase
      exact composed_of_same (h.base found) (declaration other ne) (content other ne).kind
        sameBase.kind fun complete => sameBase.built.trans complete
  · by_cases ne : other = id
    · subst ne
      exact variant isVariant
    · rw [(content other ne).kind] at isVariant
      rw [(content other ne).base]
      exact h.variant isVariant
  · by_cases ne : other = id
    · subst ne
      rw [self inside]
      exact distinct
    · rw [old (new other inside ne) ne]
      exact h.distinct (new other inside ne)
  · by_cases ne : other = id
    · subst ne
      rw [self inside]
      exact kind closed
    · have same := content other ne
      rw [same.kind] at closed ⊢
      rw [old (new other inside ne) ne]
      exact (h.kind (new other inside ne) closed).imp_left fun blank => blank.of_same same

end ClassGraph.Composition

/-! ## Steps -/

section

variable {source : Source} {floor id : ClassId} {s s' : BuildState} {f : ClassModel → ClassModel}

open ClassGraph

/-- Declaring a class without properties, which has the open base around it as its base if it has
one. -/
theorem ClassGraph.Composition.declare (h : s.graph.Composition source.root) {model : ClassModel}
    (inside : ∀ outer ∈ model.enclosing, outer < s.graph.size) (properties : model.properties = [])
    (base : ∀ base ∈ model.base, model.kind = .nestedVariant ∧ model.enclosing = some base ∧
      (s.graph.get base).kind = .openBase)
    (variant : model.kind = .nestedVariant → ∃ base, model.base = some base)
    (kind : model.kind = .plain ∨ model.kind = .data → model.Blank) :
    (s.declare model).graph.Composition source.root := by
  have self := s.declare_get_size inside
  refine of_unreached h (by simp) (fun other lt ne => s.lt_size_of_lt_declare_size lt ne)
    (fun other ne => (s.declare_same inside ne).1) (fun other ne => (s.declare_same inside ne).2)
    (fun id found => ?_) (fun outer found => ?_) ?_ rfl ?_ ?_
  · exact Nat.lt_irrefl _ (h.founded.lt_size found)
  · rw [self] at found
    obtain ⟨isVariant, around, isOpen⟩ := base outer found
    have lt := inside outer around
    have ne := Nat.ne_of_lt lt
    refine ⟨lt, ne, .inl ⟨?_, ?_, ?_⟩⟩
    · rw [self]
      exact isVariant
    · rw [self]
      exact around
    · rw [(s.declare_same inside ne).2.kind]
      exact isOpen
  · rw [self]
    exact variant
  · rw [self, properties, List.append_nil]
    cases hbase : model.base with
    | none => exact List.nodup_nil
    | some outer => exact h.distinct (inside outer (base outer hbase).2.1)
  · rw [self]
    exact fun closed => .inl (kind closed)

/-- A class from which no other one is composed is filled. -/
theorem ClassGraph.Composition.fill_unreached (h : s.graph.Composition source.root)
    (inside : id < s.graph.size) (unreached : ∀ other, (s.graph.get other).base ≠ some id)
    (base : ∀ base, (f (s.graph.get id)).base = some base →
      base < s.graph.size ∧ base ≠ id ∧
        ((s.change id f).graph.IsVariant id base ∨
          (s.change id f).graph.IsExtension source.root id base))
    (variant : (f (s.graph.get id)).kind = .nestedVariant →
      ∃ base, (f (s.graph.get id)).base = some base)
    (all : List Property) (eq : all =
      (f (s.graph.get id)).base.elim [] s.graph.allProperties ++ (f (s.graph.get id)).properties)
    (distinct : DistinctNames all)
    (kind : (f (s.graph.get id)).kind = .plain ∨ (f (s.graph.get id)).kind = .data →
      (f (s.graph.get id)).kind = kindFor all) :
    (s.change id f).graph.Composition source.root := by
  have self := s.change_get_self inside f
  rw [← self] at base variant eq kind
  refine h.of_unreached (by simp) (fun other lt _ => by simpa using lt) (fun other ne => ?_)
    (fun other ne => ?_) unreached base variant eq distinct (fun closed => .inr (kind closed))
  · rw [s.change_get_of_ne ne]
    exact ⟨rfl, rfl, rfl, rfl⟩
  · rw [s.change_get_of_ne ne]
    exact ⟨rfl, rfl, rfl, rfl⟩

/-- Filling a class changes its kind and its base together, in one of the ways that a shape
allows. -/
theorem Filling.composition (h : s.graph.Composition source.root) (inside : id < s.graph.size)
    (filling : Filling source s.graph id (f (s.graph.get id))) :
    (s.change id f).graph.Composition source.root := by
  have self := s.change_get_self inside f
  generalize hmodel : f (s.graph.get id) = model at filling self
  cases filling with
  | openBase blank =>
    refine h.fill_unreached inside (h.unreached_of_blank blank) ?_ ?_ [] ?_
      List.nodup_nil ?_ <;> rw [hmodel]
    · simp [blank.base]
    · simp
    · simp [blank.base, blank.properties]
    · simp
  | @share properties kind childless distinct =>
    refine h.fill_unreached inside childless ?_ ?_ properties ?_ distinct ?_ <;>
      rw [hmodel]
    · simp [h.base_of_openBase kind]
    · simp [kind]
    · simp [h.base_of_openBase kind]
    · simp [kind]
  | @variant base properties kind isBase distinct =>
    refine h.fill_unreached inside (h.unreached_of_variant kind) ?_ ?_ _ ?_
      distinct ?_ <;> rw [hmodel]
    · intro outer found
      have ne : outer ≠ id := fun eq => h.founded.ne_self id (eq ▸ found)
      refine ⟨h.founded.lt_size found, ne, .inl ?_⟩
      rcases h.base found with old | old
      · refine ⟨?_, ?_, ?_⟩
        · rw [self]
          exact kind
        · rw [self]
          exact old.enclosing
        · rw [s.change_get_of_ne ne]
          exact old.baseKind
      · rcases old.kind with other | other <;> rw [kind] at other <;> cases other
    · simp [isBase]
    · simp [isBase]
    · simp [kind]
  | @plain properties blank distinct =>
    refine h.fill_unreached inside (h.unreached_of_blank blank) ?_ ?_ properties
      ?_ distinct ?_ <;> rw [hmodel]
    · simp [blank.base]
    · rcases kindFor_eq properties with eq | eq <;> simp [eq]
    · simp [blank.base]
    · simp
  | @extend node base own blank within path isExtension complete closed _ distinct =>
    refine h.fill_unreached inside (h.unreached_of_blank blank) ?_ ?_ _ ?_
      distinct ?_ <;> rw [hmodel]
    · intro outer found
      obtain rfl := Option.some.inj found
      have lt : base < s.graph.size := ClassGraph.lt_size_of_built complete
      have ne : base ≠ id := by
        rintro rfl
        rw [blank.built] at complete
        cases complete
      refine ⟨lt, ne, .inr ⟨?_, ⟨node, within, ?_, isExtension⟩, ?_, ?_⟩⟩
      · rw [self]
        exact kindFor_eq _
      · rw [self]
        exact path
      · rw [s.change_get_of_ne ne]
        exact complete
      · rw [s.change_get_of_ne ne]
        exact ClassKind.plain_or_data closed
    · rcases kindFor_eq (s.graph.allProperties base ++ own) with eq | eq <;> simp [eq]
    · simp
    · simp
  | complete filled kind =>
    have same (other : ClassId) : ∃ built, (s.change id f).graph.get other =
        { s.graph.get other with built } ∧ ((s.graph.get other).built → built) ∧
        ((s.graph.get other).Blank → built = (s.graph.get other).built) := by
      by_cases eq : other = id
      · subst eq
        exact ⟨true, self, fun _ => rfl, fun blank => absurd blank filled⟩
      · exact ⟨_, s.change_get_of_ne eq f, fun h => h, fun _ => rfl⟩
    refine h.of_same (by simp) (fun other => ?_) (fun other => ?_) (fun other => ?_)
      (fun other => ?_) (fun other => ?_) (fun other => ?_) <;>
      obtain ⟨built, eq, complete, pending⟩ := same other <;> rw [eq]
    · exact ⟨rfl, rfl, rfl, rfl⟩
    · exact complete
    · exact fun blank =>
        ⟨blank.kind, blank.properties, blank.base, (pending blank).trans blank.built⟩

/-- Every step keeps classes well composed. -/
theorem Step.composition (step : Step source floor s s') (h : s.graph.Composition source.root) :
    s'.graph.Composition source.root := by
  cases step with
  | progress inProgress => exact h
  | declare _ _ _ _ _ inside =>
    rw [BuildState.begin_graph]
    exact h.declare inside rfl (fun _ found => by cases found) (fun kind => by cases kind)
      fun _ => ⟨rfl, rfl, rfl, rfl⟩
  | @variant _ alternative base name _ active kind =>
    refine h.declare (by simpa [variantClass] using active.inside) rfl
      (fun outer found => ?_) (fun _ => ⟨base, rfl⟩) ?_
    · obtain rfl := Option.some.inj found
      exact ⟨rfl, rfl, kind⟩
    · rintro (closed | closed) <;> cases closed
  | fill _ active filling => exact filling.composition h active.inside
  | @enum owner definition active =>
    refine h.of_same (by simp) (fun other => ?_) (fun other => ?_) (fun other => ?_)
      (fun other => ?_) (fun other => ?_) (fun other => ?_) <;>
      obtain ⟨enums, eq⟩ := s.change_enums_get definition active.inside other <;> rw [eq]
    · exact ⟨rfl, rfl, rfl, rfl⟩
    · exact fun complete => complete
    · exact fun blank => ⟨blank.kind, blank.properties, blank.base, blank.built⟩

end

end SchemaClasses
