import SchemaClasses.Proofs.Build.Order
import SchemaClasses.Proofs.Build.Trace

/-!
# The traces of the builders

Each builder takes steps only, given that the builders it calls do. The builders of a document are
made from each other in as many rounds as there is depth, and so all of them take steps only.

## Main definitions

* `Obtained`: what a builder leaves behind that gives the class of a schema.
* `Builders.Traced`: builders that take steps only.
* `IsOpen`: an open base with the alternatives that have been declared in it so far.
* `Filled`: a class that only has to be marked as complete.

## Main statements

* `builders_traced`: the builders to any depth take steps only.
-/

namespace SchemaClasses

/-- A builder has given the class of a schema. Of the classes from before only that in which this
one stands may have got more classes, and none has got enums. -/
structure Obtained (node : Node) (s : BuildState) (id : ClassId) (s' : BuildState) : Prop where
  inside : id < s'.graph.size
  path : (s'.graph.get id).path = node.path
  beside : ∀ other, s.graph.size ≤ other → ∀ outer, outer < s.graph.size →
    (s'.graph.get other).enclosing = some outer → (s'.graph.get id).enclosing = some outer
  enums : ∀ other, other < s.graph.size →
    (s'.graph.get other).enums = (s.graph.get other).enums

/-- Builders that take steps only, in a state in which the class that refers is being built. -/
structure Builders.Traced (source : Source) (builders : Builders) : Prop where
  classFor : ∀ {node : Node} {s : BuildState} {referencing : Option ClassId} (fallback : String),
    s.Sound source → source.root.Reached node → isClassSchema node true = .ok true →
    s.LeadsTo node.path referencing →
    Build.Traces source s.graph.size s (builders.classFor node fallback referencing)
      fun id s' => Obtained node s id s'
  typeFor : ∀ {node : Node} {s : BuildState} {owner : ClassId} (nameHint : String),
    s.Sound source → source.root.Reached node → s.IsActive owner →
    Build.Traces source s.graph.size s (builders.typeFor node nameHint owner) fun _ _ => True

section

variable {source : Source} {builders : Builders} {node : Node} {s : BuildState}
  {owner floor : ClassId}

open Build

/-- The class of a schema for another class, which refers to it. -/
theorem Builders.Traced.classForOwner (h : builders.Traced source) (sound : s.Sound source)
    (reached : source.root.Reached node) (isClass : isClassSchema node true = .ok true)
    (active : s.IsActive owner) (fallback : String) :
    Traces source s.graph.size s (builders.classFor node fallback (some owner))
      fun id s' => Obtained node s id s' :=
  h.classFor fallback sound reached isClass active

/-! ## Types -/

theorem isFreeIn_of_checkFreeIn {graph : ClassGraph} {name path : String} {id : ClassId}
    {result : Unit} (free : checkFreeIn graph name path id = .ok result) :
    graph.isFreeIn id name := by
  unfold checkFreeIn at free
  split at free
  · assumption
  · cases free

/-- An enum is declared in the class that is being built, and nothing else is changed. -/
theorem buildEnum_traces (nameHint : String) (active : s.IsActive owner) :
    Traces source floor s (buildEnum node nameHint owner) fun _ _ => True := by
  unfold buildEnum
  refine .ofExcept_bind fun values _ => .ofExcept_bind fun types _ => ?_
  split
  · exact .unsupported _ _
  · refine .graph_bind ?_
    split
    · exact .pure trivial
    · refine .ofExcept_bind fun name named => .ofExcept_bind fun _ free => ?_
      have isFree := isFreeIn_of_checkFreeIn free
      exact .of_step rfl (.enum active rfl ⟨_, _, named⟩ isFree) (by simp) trivial

/-- Only the items of a sequence are built. -/
theorem buildSequence_traces (h : builders.Traced source) (sound : s.Sound source)
    (within : source.root.Within node) (nameHint : String) (active : s.IsActive owner) :
    Traces source s.graph.size s (buildSequence builders node nameHint owner) fun _ _ => True := by
  unfold buildSequence
  split
  · exact .pure trivial
  · rename_i items found
    split
    · exact .unsupported _ _
    · split
      · exact .pure trivial
      · have item := h.typeFor nameHint sound (.of_member? within found) active
        refine .bind sound item (Nat.le_refl _) fun _ s' _ _ _ => ?_
        exact .ofExcept_bind fun _ _ => .pure trivial

theorem buildMap_traces (h : builders.Traced source) (sound : s.Sound source)
    (within : source.root.Within node) (nameHint : String) (active : s.IsActive owner) :
    Traces source s.graph.size s (buildMap builders node nameHint owner) fun _ _ => True := by
  unfold buildMap
  split
  · exact .pure trivial
  · rename_i values found
    split
    · have value := h.typeFor nameHint sound (.of_member? within found) active
      exact .bind sound value (Nat.le_refl _) fun _ _ _ _ _ => .pure trivial
    · exact .pure trivial

/-- The types by name build nothing, but for sequences and maps. -/
theorem buildPlainType_traces (h : builders.Traced source) (sound : s.Sound source)
    (within : source.root.Within node) (types : List String) (nameHint : String)
    (active : s.IsActive owner) :
    Traces source s.graph.size s (buildPlainType builders node types nameHint owner)
      fun _ _ => True := by
  have primitive (name : String) : Traces source s.graph.size s
      (Build.ofExcept (primitiveType name (node.valueOf "format"))) fun _ _ => True :=
    .ofExcept fun _ _ => trivial
  unfold buildPlainType
  split
  · split
    · exact buildSequence_traces h sound within nameHint active
    · split
      · exact .unsupported _ _
      · exact .pure trivial
  · split
    · exact buildSequence_traces h sound within nameHint active
    · exact buildMap_traces h sound within nameHint active
    · exact primitive _
    · exact primitive _
    · exact primitive _
    · exact primitive _
    · exact .unsupported _ _

/-- The target of a reference is marked while its class or its type is built, and released after
that. -/
theorem buildReference_traces (h : builders.Traced source) (sound : s.Sound source)
    (within : source.root.Within node) (isReference : node.has "$ref")
    (active : s.IsActive owner) :
    Traces source s.graph.size s (buildReference source builders node owner) fun _ _ => True := by
  unfold buildReference
  refine .ofExcept_bind fun resolved found => .ofExcept_bind fun isClass hclass => ?_
  have reached : source.root.Reached resolved.target := .reference within isReference found
  split
  · rename_i yes
    have target := h.classForOwner sound reached (yes ▸ hclass) active
      (Pointer.tail resolved.pointer)
    exact .bind sound target (Nat.le_refl _) fun _ _ _ _ _ => .pure trivial
  · refine .get_bind ?_
    simp only
    split
    · exact .throw _
    · refine .bind sound (.of_step (P := fun _ t => t = _) rfl (.progress _) rfl rfl)
        (Nat.le_refl _) fun _ s' sound' done eq => ?_
      refine .bind sound' (.releasing (P := fun _ _ => True) (.ofExcept_bind fun _ _ => ?_) _)
        done.size_le fun _ _ _ _ _ => .pure trivial
      exact h.typeFor _ sound' reached (done.active active active.inside)

/-- The form of a schema decides what is built for it, always in the class that is being built. -/
theorem buildType_traces (h : builders.Traced source) (sound : s.Sound source)
    (reached : source.root.Reached node) (nameHint : String) (active : s.IsActive owner) :
    Traces source s.graph.size s (buildType source builders node nameHint owner)
      fun _ _ => True := by
  unfold buildType
  split
  · rename_i isReference
    exact buildReference_traces h sound reached.within isReference active
  · split
    · exact .pure trivial
    · refine .ofExcept_bind fun types _ => ?_
      split
      · exact .bind sound (buildEnum_traces nameHint active) (Nat.le_refl _)
          fun _ _ _ _ _ => .pure trivial
      · split
        · rename_i alternative found
          have beside := (Option.filter_eq_some_iff.1 found).1
          exact h.typeFor nameHint sound (.nullable reached.within beside) active
        · refine .ofExcept_bind fun isClass hclass => ?_
          split
          · rename_i yes
            have own := h.classForOwner sound reached (isClassSchema_true (yes ▸ hclass)) active
              nameHint
            exact .bind sound own (Nat.le_refl _) fun _ _ _ _ _ => .pure trivial
          · have plain := buildPlainType_traces h sound reached.within types nameHint active
            exact .bind sound plain (Nat.le_refl _) fun _ _ _ _ _ => .pure trivial

/-! ## Properties -/

/-- The property is called by the name that it is built for. -/
theorem buildProperty_traces (h : builders.Traced source) (sound : s.Sound source)
    (reached : source.root.Reached node) (name : String) (isRequired : Bool)
    (active : s.IsActive owner) :
    Traces source s.graph.size s (buildProperty builders name node isRequired owner)
      fun property _ => property.name = name := by
  unfold buildProperty
  split
  · exact .unsupported _ _
  · refine .bind sound (h.typeFor name sound reached active) (Nat.le_refl _) fun _ s' _ _ _ => ?_
    exact .ofExcept_bind fun _ _ => .ofExcept_bind fun _ _ => .pure rfl

theorem map_eq_of_forall₂ {members : List (String × Node)} {properties : List Property}
    (h : List.Forall₂ (fun member property => property.name = member.1) members properties) :
    properties.map (·.name) = members.map (·.1) := by
  induction h with
  | nil => rfl
  | cons first _ ih => rw [List.map_cons, List.map_cons, first, ih]

/-- The properties of a class have the names of the members of `properties` that are not skipped. -/
theorem buildProperties_traces (h : builders.Traced source) (sound : s.Sound source)
    (within : source.root.Within node) (active : s.IsActive owner) (skipped : List String) :
    Traces source s.graph.size s (buildProperties builders node owner skipped)
      fun properties _ => DistinctNames properties ∧
        ∀ property ∈ properties, property.name ∉ skipped := by
  have build {properties : Node} (found : node.member? "properties" = some properties)
      (required : List Value) :
      Traces source s.graph.size s
        (buildProperties.build builders owner skipped properties required)
        fun properties _ => DistinctNames properties ∧
          ∀ property ∈ properties, property.name ∉ skipped := by
    have within' := within.member? found
    refine (Traces.mapM (R := fun member property => property.name = member.1) sound
      fun member mem s' sound' done => ?_).mono (Nat.le_refl _) fun built _ same => ?_
    · have reached := Node.Reached.of_mem_members within' (List.mem_filter.1 mem).1
      have active' := done.active active active.inside
      exact (buildProperty_traces h sound' reached _ _ active').mono done.size_le fun _ _ eq => eq
    · have names := map_eq_of_forall₂ same
      constructor
      · unfold DistinctNames
        rw [names]
        have keys : (properties.members.map (·.1)).Nodup := by
          have all := Value.nodup_keys_of_distinctKeys (within'.distinctKeys sound.distinct)
          simpa [Node.members, Function.comp_def] using all
        exact keys.sublist (List.filter_sublist.map _)
      · intro property mem skip
        have hname : property.name ∈ built.map (·.name) := List.mem_map_of_mem mem
        rw [names] at hname
        obtain ⟨member, hmember, eq⟩ := List.mem_map.1 hname
        have kept := (List.mem_filter.1 hmember).2
        have unskipped : member.1 ∉ skipped := by simpa using kept
        exact unskipped (eq ▸ skip)
  unfold buildProperties
  split
  · exact .pure ⟨List.nodup_nil, fun _ mem => by cases mem⟩
  · rename_i properties found
    split
    · exact .unsupported _ _
    · split
      · exact build found _
      · split
        · exact build found _
        · exact .unsupported _ _

/-! ## Extensions -/

/-- Only a property whose name is not there yet is added. -/
theorem distinct_of_addProperties {inherited : List String} {own properties all : List Property}
    (h : addProperties inherited own properties = .ok all)
    (distinct : (inherited ++ own.map (·.name)).Nodup) :
    (inherited ++ all.map (·.name)).Nodup := by
  induction properties generalizing own with
  | nil =>
    cases h
    exact distinct
  | cons property rest ih =>
    unfold addProperties at h
    split at h
    · cases h
    · rename_i fresh
      refine ih h ?_
      have apart : property.name ∉ inherited ++ own.map (·.name) := by
        simpa using fresh
      rw [List.map_append, ← List.append_assoc, List.map_singleton]
      exact List.nodup_append.2 ⟨distinct, List.nodup_singleton _, by grind⟩

/-- The properties of each part are built and added to those before; no name occurs twice. -/
theorem addParts_traces (h : builders.Traced source) (sound : s.Sound source)
    (active : s.IsActive owner) {inherited : List String} {own : List Property}
    (distinct : (inherited ++ own.map (·.name)).Nodup) {parts : List Node}
    (within : ∀ part ∈ parts, source.root.Within part) :
    Traces source s.graph.size s (addParts builders owner inherited own parts)
      fun all _ => (inherited ++ all.map (·.name)).Nodup := by
  induction parts generalizing own s with
  | nil => exact .pure distinct
  | cons part rest ih =>
    unfold addParts
    refine .bind sound (buildProperties_traces h sound (within part List.mem_cons_self) active [])
      (Nat.le_refl _) fun properties s' sound' done _ => ?_
    refine .ofExcept_bind fun all hall => ?_
    have active' := done.active active active.inside
    have others := ih sound' active' (distinct_of_addProperties hall distinct)
      fun part' mem => within part' (List.mem_cons_of_mem part mem)
    exact others.mono done.size_le fun _ _ post => post

/-- The base is found complete, and is neither an open base nor an alternative. -/
theorem buildBase_traces (h : builders.Traced source) (sound : s.Sound source)
    (within : source.root.Within node) (isReference : node.has "$ref")
    (active : s.IsActive owner) :
    Traces source s.graph.size s (buildBase source builders owner node) fun base s' =>
      ((s'.graph.get base).built ∧ (s'.graph.get base).kind ≠ .openBase ∧
        (s'.graph.get base).kind ≠ .nestedVariant) ∧ ∃ target, Obtained target s base s' := by
  unfold buildBase
  refine .ofExcept_bind fun resolved found => .ofExcept_bind fun isClass hclass => ?_
  split
  · exact .unsupported _ _
  · rename_i yes
    have isClass' : isClass = true := by simpa using yes
    have target := h.classForOwner sound (.reference within isReference found)
      (isClass' ▸ hclass) active (Pointer.tail resolved.pointer)
    refine .bind sound target (Nat.le_refl _) fun base s' _ _ obtained => .graph_bind ?_
    simp only
    split
    · exact .throw _
    · rename_i complete
      split
      · exact .unsupported _ _
      · rename_i closed
        have closed' := not_or.1 (by simpa using closed)
        exact .pure ⟨⟨by simpa using complete, closed'⟩, _, obtained⟩

structure Filled (source : Source) (id : ClassId) (s : BuildState) : Prop where
  active : s.IsActive id
  filled : ¬(s.graph.get id).Blank
  kind : (s.graph.get id).kind ≠ .nestedVariant
  variants : (s.graph.get id).kind = .openBase → s.graph.HasVariants source.root id

/-- A class without alternatives has been filled when it has become plain, or has got a base or
properties. -/
theorem Filled.of_change {id : ClassId} {f : ClassModel → ClassModel} {properties : List Property}
    (active : s.IsActive id) (kind : (f (s.graph.get id)).kind = kindFor properties)
    (built : (f (s.graph.get id)).built = (s.graph.get id).built)
    (filled : kindFor properties = .data → ¬(f (s.graph.get id)).Blank) :
    Filled source id (s.change id f) := by
  have self := s.change_get_self active.inside f
  rw [← self] at kind filled
  have closed := ClassKind.ne_of_plain_or_data (kind ▸ kindFor_eq properties)
  refine ⟨active.change built, fun blank => ?_, closed.2, fun isOpen => absurd isOpen closed.1⟩
  exact filled (kind.symm.trans blank.kind) blank

/-- The extension gets its base first, and none of its own properties has the name of an inherited
one. -/
theorem buildExtension_traces (h : builders.Traced source) (sound : s.Sound source)
    (within : source.root.Within node) {members : Node}
    (found : node.member? "allOf" = some members) (active : s.IsActive owner)
    (last : s.graph.size = owner + 1) (blank : (s.graph.get owner).Blank)
    (path : (s.graph.get owner).path = node.path) :
    Traces source owner s (buildExtension source builders owner node members)
      fun _ s' => Filled source owner s' := by
  unfold buildExtension
  refine .ofExcept_bind fun parts hsplit => ?_
  obtain ⟨reference, inline⟩ := parts
  obtain ⟨href, isReference, hinline⟩ := mem_of_splitAllOf hsplit
  have item {part : Node} (mem : part ∈ members.items) : source.root.Within part :=
    (within.member? found).items mem
  have parts : ∀ part ∈ inline ++ [node], source.root.Within part := by
    intro part mem
    rcases List.mem_append.1 mem with mem | mem
    · exact item (hinline part mem)
    · exact List.mem_singleton.1 mem ▸ within
  have inside := active.inside
  refine .bind sound (buildBase_traces h sound (item href) isReference active) (Nat.le_of_lt inside)
    fun base s₁ sound₁ done₁ isBase => .graph_bind ?_
  obtain ⟨⟨complete, closed⟩, target, obtained⟩ := isBase
  have active₁ := done₁.active active inside
  have inside₁ := active₁.inside
  have insideBase := ClassGraph.lt_size_of_built complete
  have inherited : ((s₁.graph.allProperties base).map (·.name) ++
      ([] : List Property).map (·.name)).Nodup := by
    simpa [DistinctNames] using sound₁.composition.distinct insideBase
  -- As long as the base was being obtained, nothing was declared in the class but that base.
  have empty : (s₁.graph.get base).enclosing = some owner ∨
      ∀ inner, (s₁.graph.get inner).enclosing ≠ some owner := by
    refine or_iff_not_imp_right.2 fun nonempty => ?_
    obtain ⟨inner, around⟩ := not_forall_not.1 nonempty
    have new := sound₁.nesting.enclosing_lt around
    exact obtained.beside inner (last ▸ Nat.succ_le_of_lt new) owner inside around
  refine .bind sound₁ (addParts_traces h sound₁ active₁ inherited parts) (Nat.le_of_lt inside₁)
    fun own s₂ sound₂ done₂ distinct => ?_
  have active₂ := done₂.active active₁ inside₁
  have blank₂ : (s₂.graph.get owner).Blank :=
    (blank.of_same (done₁.content inside inside)).of_same (done₂.content inside₁ inside₁)
  have path₂ : (s₂.graph.get owner).path = node.path :=
    (done₂.declaration inside₁).path.trans ((done₁.declaration inside).path.trans path)
  have all : s₂.graph.allProperties base = s₁.graph.allProperties base :=
    done₂.allProperties sound₁ sound₂ (Nat.le_refl _) insideBase
  have distinct₂ : DistinctNames (s₂.graph.allProperties base ++ own) := by
    rw [all, DistinctNames, List.map_append]
    exact distinct
  have filling := Filling.extend blank₂ within path₂ (Node.has_of_member? found)
    (done₂.built complete) (by rwa [(done₂.content insideBase insideBase).kind])
    (done₂.baseFirst sound₁ sound₂ insideBase empty) distinct₂
  rw [all] at filling
  refine .updateClass (Nat.le_refl _) active₂ filling
    (.of_change active₂ rfl rfl fun _ blank => ?_)
  cases blank.base

/-! ## Alternatives -/

/-- An open base with the properties that its alternatives share, whose alternatives so far stand at
the given paths. -/
structure IsOpen (choice : Node) (id : ClassId) (shared : List Property) (paths : List String)
    (s : BuildState) : Prop where
  inside : id < s.graph.size
  kind : (s.graph.get id).kind = .openBase
  path : (s.graph.get id).path = choice.path
  properties : (s.graph.get id).properties = shared
  pending : ¬(s.graph.get id).built
  children : ∀ other, (s.graph.get other).base = some id → (s.graph.get other).path ∈ paths
  declared : ∀ path ∈ paths, ∃ variant, (s.graph.get variant).kind = .nestedVariant ∧
    (s.graph.get variant).base = some id ∧ (s.graph.get variant).path = path

namespace IsOpen

variable {choice : Node} {id : ClassId} {shared : List Property} {paths : List String}
  {s' : BuildState}

/-- An open base stays as it is while other classes are begun and filled. -/
theorem of_kept (h : IsOpen choice id shared paths s) (kept : Kept s.graph.size s s') :
    IsOpen choice id shared paths s' := by
  have same := kept.content h.inside h.inside
  refine ⟨Nat.lt_of_lt_of_le h.inside kept.size_le, same.kind.trans h.kind,
    (kept.declaration h.inside).path.trans h.path, same.properties.trans h.properties, ?_,
    fun other child => ?_, fun path mem => ?_⟩
  · rw [same.built]
    exact h.pending
  · have old := kept.childless h.inside h.inside h.pending child
    have inside : other < s.graph.size := by
      refine Nat.lt_of_not_le fun le => ?_
      rw [ClassGraph.get_of_size_le le] at old
      cases old
    rw [(kept.declaration inside).path]
    exact h.children other old
  · obtain ⟨variant, kind, base, rfl⟩ := h.declared path mem
    have inside := ClassGraph.lt_size_of_variant kind
    have same := kept.content inside inside
    exact ⟨variant, same.kind.trans kind, same.base.trans base, (kept.declaration inside).path⟩

/-- The properties of an open base are those its alternatives share. -/
theorem allProperties (h : IsOpen choice id shared paths s) (sound : s.Sound source) :
    s.graph.allProperties id = shared := by
  rw [ClassGraph.allProperties_eq sound.composition.founded h.inside,
    sound.composition.base_of_openBase h.kind, h.properties]
  rfl

/-- One more alternative is declared in an open base. -/
theorem declare (h : IsOpen choice id shared paths s) (package : Value) (name path : String) :
    IsOpen choice id shared (path :: paths) (s.declare (variantClass package name path id)) := by
  have inside : ∀ outer ∈ (variantClass package name path id).enclosing, outer < s.graph.size := by
    simpa [variantClass] using h.inside
  have same := s.declare_get_of_ne inside (Nat.ne_of_lt h.inside)
  refine ⟨?_, ?_, ?_, ?_, ?_, fun other child => ?_, fun path' mem => ?_⟩
  · rw [BuildState.declare_size]
    exact Nat.lt_succ_of_lt h.inside
  · rw [same]
    exact h.kind
  · rw [same]
    exact h.path
  · rw [same]
    exact h.properties
  · rw [same]
    exact h.pending
  · by_cases eq : other = s.graph.size
    · rw [eq, s.declare_get_size inside]
      exact List.mem_cons_self
    · rw [s.declare_get_of_ne inside eq] at child ⊢
      exact List.mem_cons_of_mem path (h.children other child)
  · rcases List.mem_cons.1 mem with rfl | mem
    · exact ⟨s.graph.size, by rw [s.declare_get_size inside]; exact ⟨rfl, rfl, rfl⟩⟩
    · obtain ⟨variant, kind, base, rfl⟩ := h.declared path' mem
      have old := Nat.ne_of_lt (ClassGraph.lt_size_of_variant kind)
      exact ⟨variant, by rw [s.declare_get_of_ne inside old]; exact ⟨kind, base, rfl⟩⟩

/-- Another class is filled and keeps its kind and its base. -/
theorem change (h : IsOpen choice id shared paths s) {variant : ClassId}
    {f : ClassModel → ClassModel} (ne : id ≠ variant) (inside : variant < s.graph.size)
    (kind : (f (s.graph.get variant)).kind = (s.graph.get variant).kind)
    (base : (f (s.graph.get variant)).base = (s.graph.get variant).base)
    (path : (f (s.graph.get variant)).path = (s.graph.get variant).path) :
    IsOpen choice id shared paths (s.change variant f) := by
  have same := s.change_get_of_ne ne f
  refine ⟨by simpa using h.inside, same ▸ h.kind, same ▸ h.path, same ▸ h.properties,
    same ▸ h.pending, fun other child => ?_, fun path' mem => ?_⟩
  · by_cases eq : other = variant
    · subst eq
      rw [s.change_get_self inside] at child ⊢
      rw [path]
      exact h.children other (base ▸ child)
    · rw [s.change_get_of_ne eq] at child ⊢
      exact h.children other child
  · obtain ⟨other, kind', base', path'⟩ := h.declared path' mem
    refine ⟨other, ?_⟩
    by_cases eq : other = variant
    · subst eq
      rw [s.change_get_self inside]
      exact ⟨kind.trans kind', base.trans base', path.trans path'⟩
    · rw [s.change_get_of_ne eq]
      exact ⟨kind', base', path'⟩

/-- A class that has not been filled becomes an open base. -/
theorem of_blank (sound : s.Sound source) (inside : id < s.graph.size)
    (blank : (s.graph.get id).Blank) (path : (s.graph.get id).path = choice.path) :
    IsOpen choice id [] [] (s.change id fun model => { model with kind := .openBase }) := by
  have self := s.change_get_self inside fun model => { model with kind := .openBase }
  refine ⟨by simpa using inside, ?_, ?_, ?_, ?_, fun other child => ?_,
    fun _ mem => by cases mem⟩
  · rw [self]
  · rw [self]
    exact path
  · rw [self]
    exact blank.properties
  · rw [self]
    simp [blank.built]
  · by_cases eq : other = id
    · rw [eq, self] at child
      exact absurd (blank.base.symm.trans child) (by simp)
    · rw [s.change_get_of_ne eq] at child
      exact absurd child (sound.composition.unreached_of_blank blank other)

/-- An open base without alternatives gets the properties that they will share. -/
theorem share (h : IsOpen choice id shared [] s) (properties : List Property) :
    IsOpen choice id properties [] (s.change id fun model => { model with properties }) := by
  have self := s.change_get_self h.inside fun model => { model with properties }
  refine ⟨by simpa using h.inside, ?_, ?_, ?_, ?_, fun other child => ?_,
    fun _ mem => by cases mem⟩
  · rw [self]
    exact h.kind
  · rw [self]
    exact h.path
  · rw [self]
  · rw [self]
    exact h.pending
  · by_cases eq : other = id
    · rw [eq, self] at child
      exact absurd (h.children id child) List.not_mem_nil
    · rw [s.change_get_of_ne eq] at child
      exact absurd (h.children other child) List.not_mem_nil

/-- An open base has been filled when all alternatives of the choice stand in it. -/
theorem filled (h : IsOpen choice id shared paths s) (sound : s.Sound source)
    (active : s.IsActive id) (within : source.root.Within choice)
    (all : ∀ alternative, source.root.HasAlternative choice alternative →
      alternative.path ∈ paths) : Filled source id s := by
  refine ⟨active, fun blank => ?_, fun kind => ?_, fun _ choice' _ isAlternative eq => ?_⟩
  · exact absurd (blank.kind.symm.trans h.kind) (by simp)
  · exact absurd (kind.symm.trans h.kind) (by simp)
  · obtain rfl := within.eq_of_path sound.distinct sound.top isAlternative.within_choice
      (h.path.symm.trans eq)
    exact h.declared _ (all _ isAlternative)

end IsOpen

/-- The class of an alternative is declared, and then gets its properties. -/
theorem buildVariant_apply (path name : String) (schema : Node) (skipped : List String) :
    buildVariant builders owner skipped path name schema s =
      match checkFreeIn s.graph name path owner with
      | .error failure => .error failure s
      | .ok _ =>
        (do
          let properties ← buildProperties builders schema s.graph.size skipped
          Build.updateClass s.graph.size fun model => { model with properties, built := true }
          : Build Unit) (s.declare (variantClass (s.graph.get owner).package name path owner)) := by
  unfold buildVariant
  rw [Build.bind_apply]
  change (Build.ofExcept (checkFreeIn s.graph name path owner) >>= _) s = _
  rw [Build.bind_apply, Build.ofExcept_apply]
  cases checkFreeIn s.graph name path owner with
  | error failure => rfl
  | ok free => exact createClass_bind_apply _ _ s

/-- An open base in which the class of one more alternative has been declared. -/
structure VariantBegun (source : Source) (choice : Node) (owner : ClassId) (shared : List Property)
    (paths : List String) (model : ClassModel) (s : BuildState) : Prop where
  step : Step source owner s (s.declare model)
  declares : s.Declares source (s.declare model) model
  sound : (s.declare model).Sound source
  active : (s.declare model).IsActive s.graph.size
  isOpen : IsOpen choice owner shared (model.path :: paths) (s.declare model)

/-- The class of an alternative is placed in its base, where its name is free. -/
theorem begin_variant {choice alternative : Node} {shared : List Property} {paths : List String}
    (sound : s.Sound source) (isOpen : IsOpen choice owner shared paths s)
    (active : s.IsActive owner) (isAlternative : source.root.HasAlternative choice alternative)
    (fresh : alternative.path ∉ paths) {name : String} (named : IsClassName name)
    (free : s.graph.isFreeIn owner name) :
    VariantBegun source choice owner shared paths
      (variantClass (s.graph.get owner).package name alternative.path owner) s := by
  have step : Step source owner s
      (s.declare (variantClass (s.graph.get owner).package name alternative.path owner)) :=
    .variant (Nat.le_refl _) active isOpen.kind isOpen.path isAlternative named free
      fun other child path => fresh (path ▸ isOpen.children other child)
  have declares : s.Declares source
      (s.declare (variantClass (s.graph.get owner).package name alternative.path owner)) _ :=
    .variant active
  exact ⟨step, declares, step.sound sound, declares.active sound.nesting,
    isOpen.declare _ name alternative.path⟩

/-- Between its begin and its end the alternative is the class that is being built. -/
theorem buildVariant_traces (h : builders.Traced source) (sound : s.Sound source)
    {choice alternative schema : Node} {shared : List Property} {paths : List String}
    (isOpen : IsOpen choice owner shared paths s) (active : s.IsActive owner)
    (isAlternative : source.root.HasAlternative choice alternative)
    (fresh : alternative.path ∉ paths) (within : source.root.Within schema) {name : String}
    (named : IsClassName name) :
    Traces source owner s
      (buildVariant builders owner (shared.map (·.name)) alternative.path name schema)
      fun _ s' => IsOpen choice owner shared (alternative.path :: paths) s' := by
  unfold buildVariant
  refine .graph_bind (.ofExcept_bind fun _ free => ?_)
  have begun := begin_variant sound isOpen active isAlternative fresh named
    (isFreeIn_of_checkFreeIn free)
  have isOpen₁ : IsOpen choice owner shared (alternative.path :: paths) _ := begun.isOpen
  have inside := begun.active.inside
  refine .of_declare (createClass_bind_apply _ _ s) begun.step (s.declare_size _) ?_
  refine .bind begun.sound (buildProperties_traces h begun.sound within begun.active _)
    (Nat.le_of_lt isOpen₁.inside) fun properties s₂ sound₂ done₂ own => ?_
  obtain ⟨distinct, apart⟩ := own
  have isOpen₂ := isOpen₁.of_kept done₂.toKept
  have active₂ := done₂.active begun.active inside
  have same : ClassModel.SameContent (variantClass _ name alternative.path owner) _ :=
    begun.declares.get_size sound.nesting ▸ done₂.content inside inside
  have all : DistinctNames (s₂.graph.allProperties owner ++ properties) := by
    have sharedDistinct := isOpen.allProperties sound ▸ sound.composition.distinct isOpen.inside
    rw [isOpen₂.allProperties sound₂, DistinctNames, List.map_append]
    refine List.nodup_append.2 ⟨sharedDistinct, distinct, fun name mem other mem' eq => ?_⟩
    obtain ⟨property, hproperty, rfl⟩ := List.mem_map.1 mem'
    exact apart property hproperty (eq ▸ mem)
  refine .updateClass (Nat.le_of_lt isOpen.inside) active₂
    (.variant same.kind same.base all) ⟨?_, ?_⟩
  · rw [s₂.change_get_self active₂.inside]
  · exact isOpen₂.change (Nat.ne_of_lt isOpen.inside) active₂.inside rfl rfl rfl

/-- The schema of an alternative is that behind its reference, if it is one. -/
theorem buildAlternative_traces (h : builders.Traced source) (sound : s.Sound source)
    {choice alternative : Node} {shared : List Property} {paths : List String}
    (isOpen : IsOpen choice owner shared paths s) (active : s.IsActive owner)
    (isAlternative : source.root.HasAlternative choice alternative)
    (fresh : alternative.path ∉ paths) (keyword : String) :
    Traces source owner s
      (buildAlternative source builders owner keyword (shared.map (·.name)) alternative)
      fun _ s' => IsOpen choice owner shared (alternative.path :: paths) s' := by
  unfold buildAlternative
  split
  · exact .unsupported _ _
  · refine .ofExcept_bind fun named hschema => .ofExcept_bind fun _ _ => ?_
    split
    · have within := within_of_alternativeSchema isAlternative.within hschema
      exact buildVariant_traces h sound isOpen active isAlternative fresh within
        (isClassName_of_alternativeSchema hschema)
    · exact .unsupported _ _

/-- An alternative gets the class of a schema that is found for it. -/
theorem buildAlternative_eq_ok {alternative : Node} {keyword : String} {skipped : List String}
    {s' : BuildState}
    (run : buildAlternative source builders owner keyword skipped alternative s = .ok () s') :
    ∃ schema name, alternativeSchema source keyword alternative = .ok (schema, name) ∧
      isAlternativeSchema schema = .ok true ∧
      buildVariant builders owner skipped alternative.path name schema s = .ok () s' := by
  unfold buildAlternative at run
  split at run
  · cases run
  · obtain ⟨⟨schema, name⟩, _, hschema, run⟩ := bind_eq_ok_iff.1 run
    obtain ⟨found, rfl⟩ := ofExcept_eq_ok_iff.1 hschema
    obtain ⟨_, _, hcheck, run⟩ := bind_eq_ok_iff.1 run
    obtain ⟨simple, rfl⟩ := ofExcept_eq_ok_iff.1 hcheck
    split at run
    · rename_i yes
      exact ⟨schema, name, found, yes ▸ simple, run⟩
    · cases run

/-- By induction on the alternatives that are left: each is added to the paths of those in the
base. -/
theorem alternatives_traces (h : builders.Traced source) (sound : s.Sound source)
    {choice : Node} {shared : List Property} {paths : List String}
    (isOpen : IsOpen choice owner shared paths s) (active : s.IsActive owner) {rest : List Node}
    (areAlternatives : ∀ alternative ∈ rest, source.root.HasAlternative choice alternative)
    (distinct : (rest.map (·.path)).Nodup) (fresh : ∀ alternative ∈ rest, alternative.path ∉ paths)
    (keyword : String) :
    Traces source owner s
      (rest.forM (buildAlternative source builders owner keyword (shared.map (·.name))))
      fun _ s' => IsOpen choice owner shared ((rest.map (·.path)).reverse ++ paths) s' := by
  induction rest generalizing s paths with
  | nil => exact .pure isOpen
  | cons alternative rest ih =>
    obtain ⟨apart, distinct⟩ := List.nodup_cons.1 distinct
    have first := buildAlternative_traces h sound isOpen active
      (areAlternatives alternative List.mem_cons_self) (fresh alternative List.mem_cons_self)
      keyword
    refine .bind sound first (Nat.le_refl _) fun _ s' sound' done isOpen' => ?_
    rw [List.map_cons, List.reverse_cons, List.append_assoc]
    have active' := done.active_of_pending active isOpen'.pending
    refine ih sound' isOpen' active' (fun other mem => areAlternatives other (List.mem_cons_of_mem _ mem))
      distinct fun other mem => ?_
    rw [List.singleton_append, List.mem_cons, not_or]
    exact ⟨fun eq => apart (List.mem_map.2 ⟨other, mem, eq⟩),
      fresh other (List.mem_cons_of_mem _ mem)⟩

/-- The class becomes an open base, then gets the shared properties, and at last has all its
alternatives. -/
theorem buildAlternatives_traces (h : builders.Traced source) (sound : s.Sound source)
    (within : source.root.Within node) (isClass : isClassSchema node true = .ok true)
    (isChoice : node.has "oneOf" ∨ node.has "anyOf") (active : s.IsActive owner)
    (blank : (s.graph.get owner).Blank) (path : (s.graph.get owner).path = node.path) :
    Traces source owner s (buildAlternatives source builders owner node)
      fun _ s' => Filled source owner s' := by
  unfold buildAlternatives
  split
  · exact .unsupported _ _
  · rename_i notBoth
    obtain ⟨keyword, hkeyword, isKeyword, has, only⟩ := exists_choiceKeyword isChoice notBoth
    simp only [hkeyword]
    split
    · rename_i missing
      have := Option.map_eq_none_iff.1 missing
      simp [Node.has, this] at has
    · rename_i alternatives found
      split
      · exact .unsupported _ _
      · refine .bind sound (.updateClass (P := fun _ t => IsOpen node owner [] [] t)
          (Nat.le_refl _) active (.openBase blank) (.of_blank sound active.inside blank path))
          (Nat.le_refl _) fun _ s₁ sound₁ done₁ isOpen₁ => ?_
        have active₁ := done₁.active_of_pending active isOpen₁.pending
        refine .bind sound₁ (buildProperties_traces h sound₁ within active₁ [])
          (Nat.le_of_lt isOpen₁.inside) fun shared s₂ sound₂ done₂ own => ?_
        have isOpen₂ := isOpen₁.of_kept done₂.toKept
        have active₂ := done₂.active active₁ active₁.inside
        have childless (other : ClassId) : (s₂.graph.get other).base ≠ some owner := fun child =>
          absurd (isOpen₂.children other child) List.not_mem_nil
        refine .bind sound₂ (.updateClass (P := fun _ t => IsOpen node owner shared [] t)
          (Nat.le_refl _) active₂ (.share isOpen₂.kind childless own.1)
          (isOpen₂.share shared)) (Nat.le_refl _) fun _ s₃ sound₃ done₃ isOpen₃ => ?_
        have active₃ := done₃.active_of_pending active₂ isOpen₃.pending
        have all := alternatives_traces h sound₃ isOpen₃ active₃
          (fun _ mem => .of within isClass isKeyword found mem) alternatives.nodup_items_path
          (fun _ _ => List.not_mem_nil) keyword
        refine all.post sound₃ fun _ s₄ sound₄ done₄ isOpen₄ => ?_
        have active₄ := done₄.active_of_pending active₃ isOpen₄.pending
        refine isOpen₄.filled sound₄ active₄ within fun alternative isAlternative => ?_
        cases isAlternative with
        | of _ _ isKeyword' found' mem =>
          obtain rfl := only _ isKeyword' (Node.has_of_member? found')
          obtain rfl := Option.some.inj (found.symm.trans found')
          rw [List.append_nil, List.mem_reverse]
          exact List.mem_map_of_mem mem

/-! ## Classes -/

/-- A class is filled as a choice, as an extension or from its own properties. -/
theorem fillClass_traces (h : builders.Traced source) (sound : s.Sound source)
    (within : source.root.Within node) (isClass : isClassSchema node true = .ok true)
    (active : s.IsActive owner) (last : s.graph.size = owner + 1)
    (blank : (s.graph.get owner).Blank) (path : (s.graph.get owner).path = node.path) :
    Traces source owner s (fillClass source builders owner node)
      fun _ s' => Filled source owner s' := by
  unfold fillClass
  split
  · rename_i members found
    exact buildExtension_traces h sound within found active last blank path
  · split
    · rename_i isChoice
      exact buildAlternatives_traces h sound within isClass (by simpa using isChoice) active blank
        path
    · have inside := active.inside
      refine .bind sound (buildProperties_traces h sound within active []) (Nat.le_of_lt inside)
        fun properties s₁ _ done₁ own => ?_
      have active₁ := done₁.active active inside
      have blank₁ := blank.of_same (done₁.content inside inside)
      refine .updateClass (Nat.le_refl _) active₁ (.plain blank₁ own.1)
        (.of_change active₁ rfl rfl fun isData blank => ?_)
      have isEmpty : properties = [] := blank.properties
      rw [isEmpty] at isData
      cases isData

/-- A class that there is already is returned as it is. Another one is placed, declared and filled,
and it is complete when the builder ends. -/
theorem buildClass_traces (h : builders.Traced source) (sound : s.Sound source)
    (reached : source.root.Reached node) (isClass : isClassSchema node true = .ok true)
    {referencing : Option ClassId} (leads : s.LeadsTo node.path referencing) (fallback : String) :
    Traces source s.graph.size s (buildClass source builders node fallback referencing)
      fun id s' => Obtained node s id s' := by
  cases cached : s.classOf.lookup node.path with
  | some id =>
    unfold Traces
    rw [buildClass_cached cached]
    obtain ⟨inside, path⟩ := sound.paths.key cached
    refine ⟨.refl, .of_size_eq rfl, inside, path, fun other le outer _ around => ?_, fun _ _ => rfl⟩
    exact absurd (BuildState.Nesting.lt_size_of_enclosing around) (Nat.not_lt.2 le)
  | none =>
    cases hplacement : s.placement node fallback referencing with
    | error failure =>
      unfold Traces
      rw [buildClass_fresh cached, hplacement]
    | ok placed =>
      obtain ⟨name, enclosing, reserved⟩ := placed
      have declares : s.Declares source _ _ := .begin leads hplacement
      have step : Step source s.graph.size s (s.begin reserved
          (blankClass source node name enclosing) referencing) :=
        .declare reached isClass cached leads hplacement (declares.inside sound.nesting)
      have run : buildClass source builders node fallback referencing s = _ :=
        buildClass_fresh cached
      rw [hplacement] at run
      simp only at run
      refine .of_declare run step declares.size ?_
      have sound₁ := step.sound sound
      have active₁ := declares.active sound.nesting
      have inside₁ := active₁.inside
      have self := declares.get_size sound.nesting
      have fill := fillClass_traces h sound₁ reached.within isClass active₁ declares.size
        (by rw [self]; exact ⟨rfl, rfl, rfl, rfl⟩) (by rw [self]; rfl)
      refine .bind sound₁ fill (Nat.le_refl _) fun _ s₂ sound₂ done₂ filled => ?_
      have pending₂ := filled.active.pending
      have same : SameShape s₂
          (s₂.change s.graph.size fun model => { model with built := true }) :=
        .change filled.active.inside ⟨rfl, rfl, rfl, rfl⟩ rfl
      have obtained : Obtained node s s.graph.size
          (s₂.change s.graph.size fun model => { model with built := true }) := by
        refine ⟨?_, ?_, fun other le outer lt around => ?_, fun other lt => ?_⟩
        · rw [same.size]
          exact filled.active.inside
        · rw [(same.declaration _).path, (done₂.declaration inside₁).path, self]
          rfl
        · rw [(same.declaration _).enclosing] at around ⊢
          exact done₂.steps.beside sound₁ inside₁ pending₂ declares.beside other le outer lt around
        · rw [s₂.change_get_of_ne (Nat.ne_of_lt lt)]
          exact (done₂.steps.enums sound₁ inside₁ pending₂ lt).trans
            (declares.enums_of_lt sound.nesting lt)
      refine .bind sound₂ (.updateClass (P := fun _ t => (t.graph.get s.graph.size).built ∧
        Obtained node s s.graph.size t) (Nat.le_refl _) filled.active
        (.complete filled.filled filled.kind filled.variants) ⟨?_, obtained⟩) (Nat.le_refl _)
        fun _ _ _ _ post => .pure post
      rw [s₂.change_get_self filled.active.inside]

/-- The builders to any depth take steps only. -/
theorem builders_traced (source : Source) (depth : Nat) :
    (SchemaClasses.builders source depth).Traced source := by
  induction depth with
  | zero => exact ⟨fun _ _ _ _ _ => .throw _, fun _ _ _ _ => .throw _⟩
  | succ depth ih =>
    exact ⟨fun fallback sound reached isClass leads =>
        buildClass_traces ih sound reached isClass leads fallback,
      fun nameHint sound reached inside => buildType_traces ih sound reached nameHint inside⟩

end

end SchemaClasses
