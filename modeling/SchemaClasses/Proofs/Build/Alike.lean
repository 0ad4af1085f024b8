import SchemaClasses.Proofs.Build.Form
import SchemaClasses.Proofs.Build.Schemas

/-!
# Schemas of the same value

What a schema describes depends on its value and not on its place, which only messages tell. So two
schemas of the same value have types that are the same apart from the classes and enums that are
declared for them, whatever has been built before each of them.

## Main definitions

* `Form.Alike`: two forms name schemas of the same values.
* `TypeRef.anonymous`: a type without the classes and enums in it.
* `Builders.Alike`: builders that give schemas of the same value the same types.

## Main statements

* `Node.form_alike`: schemas of the same value have the same form.
* `builders_alike`: the builders to any depths give schemas of the same value the same types.
-/

namespace SchemaClasses

/-! ## Questions about a schema -/

section

variable {a b : Node}

theorem Node.has_congr (same : a.value = b.value) : a.has = b.has := by
  funext key
  unfold Node.has
  rw [same]

theorem Node.valueOf_congr (same : a.value = b.value) (key : String) :
    a.valueOf key = b.valueOf key := by
  unfold Node.valueOf
  rw [same]

theorem Node.isObject_congr (same : a.value = b.value) : a.isObject = b.isObject := by
  unfold Node.isObject
  rw [same]

theorem Node.isArray_congr (same : a.value = b.value) : a.isArray = b.isArray := by
  unfold Node.isArray
  rw [same]

theorem isComposed_congr (same : a.value = b.value) : isComposed a = isComposed b := by
  unfold isComposed
  rw [Node.has_congr same]

theorem typeNames_congr (same : a.value = b.value) {types : List String}
    (h : typeNames a = .ok types) : typeNames b = .ok types := by
  unfold typeNames at h ⊢
  rw [← Node.valueOf_congr same]
  grind [unsupported, Except.bind_eq_ok_iff]

theorem Node.member?_congr (same : a.value = b.value) (key : String) :
    (a.member? key).map (·.value) = (b.member? key).map (·.value) := by
  unfold Node.member?
  rw [same]
  simp [Function.comp_def]

theorem Node.map_value_items (node : Node) : node.items.map (·.value) = node.value.items := by
  simp [Node.items, List.mapIdx_eq_zipIdx_map, Function.comp_def]

/-- The alternatives beside null are found by their values alone. -/
theorem otherThanNull?_congr (same : a.value = b.value) (keyword : String) :
    (otherThanNull? a keyword).map (·.value) = (otherThanNull? b keyword).map (·.value) := by
  have others (node : Node) : (node.items.filter (!isNullSchema ·)).map (·.value) =
      node.value.items.filter fun value => !isNullSchema (.ofValue value) := by
    rw [← node.map_value_items, List.filter_map]
    rfl
  have inner := Node.member?_congr same keyword
  unfold otherThanNull?
  cases ha : a.member? keyword with
  | none =>
    rw [ha] at inner
    cases hb : b.member? keyword with
    | none => rfl
    | some alternatives => 
      rw [hb] at inner
      cases inner
  | some alternatives =>
    rw [ha] at inner
    cases hb : b.member? keyword with
    | none =>
      rw [hb] at inner
      cases inner
    | some alternatives' =>
      rw [hb] at inner
      have same' : alternatives.value = alternatives'.value := Option.some.inj inner
      have items : alternatives.items.map (·.value) = alternatives'.items.map (·.value) := by
        rw [Node.map_value_items, Node.map_value_items, same']
      have filtered := (others alternatives).trans ((same' ▸ (others alternatives').symm))
      have count := congrArg List.length items
      have left := congrArg List.length filtered
      have first := congrArg List.head? filtered
      simp only [List.length_map, List.head?_map] at count left first
      simp only [count, left]
      split
      · exact first
      · rfl

theorem nullableAlternative?_congr (same : a.value = b.value) :
    (nullableAlternative? a).map (·.value) = (nullableAlternative? b).map (·.value) := by
  have either (x y : Option Node) :
      (x.or y).map (·.value) = (x.map (·.value)).or (y.map (·.value)) := by
    cases x <;> rfl
  unfold nullableAlternative?
  rw [Node.has_congr same]
  split
  · rfl
  · rw [either, either, otherThanNull?_congr same, otherThanNull?_congr same]

theorem Node.beside?_congr (same : a.value = b.value) :
    a.beside?.map (·.value) = b.beside?.map (·.value) := by
  have filtered (x : Option Node) (p : Bool) :
      (x.filter fun _ => p).map (·.value) = (x.map (·.value)).filter fun _ => p := by
    cases x <;> cases p <;> rfl
  unfold Node.beside?
  rw [Node.has_congr same, filtered, filtered, nullableAlternative?_congr same]

theorem admitsNull_congr (same : a.value = b.value) : admitsNull a = admitsNull b := by
  have beside := congrArg Option.isSome (nullableAlternative?_congr same)
  simp only [Option.isSome_map] at beside
  unfold admitsNull
  rw [Node.isObject_congr same, Node.has_congr same, Node.valueOf_congr same, beside]

/-- Whether a schema is a class depends on its value alone. -/
theorem isClassSchema_congr (same : a.value = b.value) {allowEmpty isClass : Bool}
    (h : isClassSchema a allowEmpty = .ok isClass) : isClassSchema b allowEmpty = .ok isClass := by
  have beside := congrArg Option.isNone (nullableAlternative?_congr same)
  have isMap := congrArg (Option.any (·.isObject)) (Node.member?_congr same "additionalProperties")
  simp only [Option.isNone_map, Option.any_map] at beside isMap
  unfold isClassSchema at h ⊢
  rw [← Node.isObject_congr same, ← Node.has_congr same, ← isComposed_congr same, ← beside]
  split
  · rename_i refused
    rwa [if_pos refused] at h
  · rename_i given
    rw [if_neg given] at h
    obtain ⟨types, htypes, h⟩ := Except.bind_eq_ok_iff.1 h
    refine Except.bind_eq_ok_iff.2 ⟨types, typeNames_congr same htypes, ?_⟩
    rw [← h]
    simp only [Node.isObject] at isMap ⊢
    rw [isMap]

theorem boundConstraint_congr {kind : ConstraintKind} {value : Value}
    {constraints : List Constraint} (h : boundConstraint a kind value = .ok constraints) :
    boundConstraint b kind value = .ok constraints := by
  unfold boundConstraint at h ⊢
  grind [unsupported]

theorem numericConstraints_congr (same : a.value = b.value) {constraints : List Constraint}
    (h : numericConstraints a = .ok constraints) : numericConstraints b = .ok constraints := by
  unfold numericConstraints at h ⊢
  simp only [← Node.valueOf_congr same]
  obtain ⟨bounds, hbounds, h⟩ := Except.bind_eq_ok_iff.1 h
  refine Except.bind_eq_ok_iff.2 ⟨bounds, ?_, h⟩
  exact Except.mapM_eq_ok_of_imp (fun _ _ => boundConstraint_congr) hbounds

theorem countConstraint_congr (same : a.value = b.value) {kind : ConstraintKind}
    {constraints : List Constraint} (h : countConstraint a kind = .ok constraints) :
    countConstraint b kind = .ok constraints := by
  unfold countConstraint at h ⊢
  simp only [← Node.valueOf_congr same]
  grind [unsupported]

theorem patternConstraint_congr (same : a.value = b.value) {constraints : List Constraint}
    (h : patternConstraint a = .ok constraints) : patternConstraint b = .ok constraints := by
  unfold patternConstraint at h ⊢
  rw [← Node.valueOf_congr same]
  grind [unsupported]

/-- The validation keywords depend on the value of a schema alone. -/
theorem constraintsFor_congr (same : a.value = b.value) {type : TypeRef}
    {constraints : List Constraint} (h : constraintsFor a type = .ok constraints) :
    constraintsFor b type = .ok constraints := by
  have isUnique : uniqueConstraint a = uniqueConstraint b := by
    unfold uniqueConstraint
    rw [Node.valueOf_congr same]
  have texts {constraints : List Constraint} (h : stringConstraints a = .ok constraints) :
      stringConstraints b = .ok constraints := by
    simp only [stringConstraints, Except.bind_eq_ok_iff] at h ⊢
    obtain ⟨least, hleast, most, hmost, pattern, hpattern, h⟩ := h
    exact ⟨least, countConstraint_congr same hleast, most, countConstraint_congr same hmost,
      pattern, patternConstraint_congr same hpattern, h⟩
  have arrays {constraints : List Constraint} (h : arrayConstraints a = .ok constraints) :
      arrayConstraints b = .ok constraints := by
    simp only [arrayConstraints, Except.bind_eq_ok_iff, isUnique] at h ⊢
    obtain ⟨least, hleast, most, hmost, h⟩ := h
    exact ⟨least, countConstraint_congr same hleast, most, countConstraint_congr same hmost, h⟩
  unfold constraintsFor at h ⊢
  rw [← Node.isObject_congr same]
  grind [numericConstraints_congr]

end

/-! ## Forms -/

/-- Two forms are the same apart from the places of the schemas that they name. -/
inductive Form.Alike : Form → Form → Prop
  | reference : Alike .reference .reference
  | any : Alike .any .any
  | enum : Alike .enum .enum
  | nullable {a b : Node} (same : a.value = b.value) : Alike (.nullable a) (.nullable b)
  | ofClass : Alike .ofClass .ofClass
  | anySequence : Alike .anySequence .anySequence
  | sequence {a b : Node} (same : a.value = b.value) : Alike (.sequence a) (.sequence b)
  | map {a b : Node} (same : a.value = b.value) : Alike (.map a) (.map b)
  | plain (type : TypeRef) : Alike (.plain type) (.plain type)

section

variable {a b : Node}

/-- What two nodes of the same value have under a key. -/
theorem Node.member?_cases (same : a.value = b.value) (key : String) :
    (a.member? key = none ∧ b.member? key = none) ∨ ∃ c d, a.member? key = some c ∧
      b.member? key = some d ∧ c.value = d.value := by
  have inner := Node.member?_congr same key
  cases ha : a.member? key <;> cases hb : b.member? key <;> simp_all

/-- Sequences of the same value have items of the same value, if any. -/
theorem Node.sequenceForm_alike (same : a.value = b.value) {f g : Form}
    (ha : a.sequenceForm = .ok f) (hb : b.sequenceForm = .ok g) : f.Alike g := by
  unfold Node.sequenceForm at ha hb
  rcases Node.member?_cases same "items" with ⟨eqa, eqb⟩ | ⟨c, d, eqa, eqb, inner⟩
  · grind [Form.Alike.anySequence]
  · have isArray := Node.isArray_congr inner
    have isObject := Node.isObject_congr inner
    grind [unsupported, Form.Alike.anySequence, Form.Alike.sequence inner]

theorem Node.mapForm_alike (same : a.value = b.value) : a.mapForm.Alike b.mapForm := by
  unfold Node.mapForm
  rcases Node.member?_cases same "additionalProperties" with ⟨eqa, eqb⟩ | ⟨c, d, eqa, eqb, inner⟩
  · rw [eqa, eqb]
    exact .any
  · have isObject := Node.isObject_congr inner
    grind [Form.Alike.any, Form.Alike.map inner]

/-- Forms by name are the same for equal values, apart from the places of the items. -/
theorem Node.plainForm_alike (same : a.value = b.value) {types : List String} {f g : Form}
    (ha : a.plainForm types = .ok f) (hb : b.plainForm types = .ok g) : f.Alike g := by
  unfold Node.plainForm at ha hb
  rw [← Node.has_congr same, ← isComposed_congr same] at hb
  simp only [← Node.valueOf_congr same] at hb
  have primitive {name : String} {format : Value}
      (ha : (do return Form.plain (← primitiveType name format)) = Except.ok f)
      (hb : (do return Form.plain (← primitiveType name format)) = Except.ok g) : f.Alike g := by
    obtain ⟨type, -, ha'⟩ := Except.bind_eq_ok_iff.1 ha
    cases ha'
    cases Except.ok.inj (ha.symm.trans hb)
    exact .plain type
  cases types with
  | nil =>
    have isSequence := @Node.sequenceForm_alike a b same
    grind [unsupported, Form.Alike.any]
  | cons name rest =>
    simp only at ha hb
    split at ha
    · exact Node.sequenceForm_alike same ha hb
    · cases ha
      cases hb
      exact Node.mapForm_alike same
    · exact primitive ha hb
    · exact primitive ha hb
    · exact primitive ha hb
    · exact primitive ha hb
    · cases ha

/-- The form of a schema depends on its value, and names the members at its own place. -/
theorem Node.form_alike (same : a.value = b.value) {f g : Form} (ha : a.form = .ok f)
    (hb : b.form = .ok g) : f.Alike g := by
  unfold Node.form at ha hb
  rw [← Node.has_congr same, ← Node.isObject_congr same] at hb
  split at ha
  · grind [Form.Alike.reference]
  · split at ha
    · grind [Form.Alike.any]
    · rename_i direct isSchema
      rw [if_neg direct, if_neg isSchema] at hb
      obtain ⟨types, htypes, ha⟩ := Except.bind_eq_ok_iff.1 ha
      obtain ⟨types', htypes', hb⟩ := Except.bind_eq_ok_iff.1 hb
      obtain rfl := Except.ok.inj ((typeNames_congr same htypes).symm.trans htypes')
      have beside := Node.beside?_congr same
      split at ha
      · rename_i isEnum
        rw [if_pos isEnum] at hb
        cases ha
        cases hb
        exact .enum
      · rename_i noEnum
        rw [if_neg noEnum] at hb
        cases ba : a.beside? with
        | none =>
          have bb : b.beside? = none := by simpa [ba] using beside.symm
          simp only [ba, bb, Except.bind_eq_ok_iff] at ha hb
          obtain ⟨isClass, hclass, ha⟩ := ha
          obtain ⟨isClass', hclass', hb⟩ := hb
          obtain rfl := Except.ok.inj ((isClassSchema_congr same hclass).symm.trans hclass')
          split at ha
          · rename_i yes
            rw [if_pos yes] at hb
            cases ha
            cases hb
            exact .ofClass
          · rename_i no
            rw [if_neg no] at hb
            exact Node.plainForm_alike same ha hb
        | some alternative =>
          obtain ⟨alternative', bb, inner⟩ : ∃ alternative', b.beside? = some alternative' ∧
              alternative'.value = alternative.value := by
            simpa [ba] using beside.symm
          simp only [ba, bb] at ha hb
          cases ha
          cases hb
          exact .nullable inner.symm

/-- References are resolved from the root, so that the place of the first one does not matter. -/
theorem followFrom_congr {root : Node} (same : a.value = b.value) (isReference : a.has "$ref")
    {fuel : Nat} {pointer : String} {seen : List String} {resolved : Resolved}
    (h : followFrom root fuel pointer seen a = .ok resolved) :
    followFrom root fuel pointer seen b = .ok resolved := by
  cases fuel with
  | zero => cases h
  | succ fuel =>
    unfold followFrom at h ⊢
    rw [← same]
    split at h
    · rename_i last
      simp [Node.has, last] at isReference
    · exact h
    · obtain ⟨_, -, h⟩ := Except.bind_eq_ok_iff.1 h
      cases h

/-- References with the same pointer lead to the same schema. -/
theorem follow_congr {root : Node} (same : a.value = b.value) (isReference : a.has "$ref")
    {resolved : Resolved} (h : follow root a = .ok resolved) : follow root b = .ok resolved :=
  followFrom_congr same isReference h

end

/-! ## Types -/

/-- A type without the classes and the enums in it. -/
def TypeRef.anonymous : TypeRef → TypeRef
  | .ofClass _ => .ofClass 0
  | .sequence item constraints => .sequence item.anonymous constraints
  | .map value => .map value.anonymous
  | .enum _ => .enum ⟨"", [], 0, ""⟩
  | type => type

theorem constraintsFor_anonymous (node : Node) (type : TypeRef) :
    constraintsFor node type.anonymous = constraintsFor node type := by
  cases type <;> rfl

/-- Builders that give schemas of the same value types that are the same apart from what is declared
for them, and keywords from schemas of the same value. -/
structure Builders.Alike (builders builders' : Builders) : Prop where
  typeFor : ∀ {a b : Node} {nameHint nameHint' : String} {owner owner' : ClassId}
    {s s' t t' : BuildState} {built built' : TypeRef × Node}, a.value = b.value →
    builders.typeFor a nameHint owner s = .ok built s' →
    builders'.typeFor b nameHint' owner' t = .ok built' t' →
    built.1.anonymous = built'.1.anonymous ∧ built.2.value = built'.2.value

section

variable {source : Source} {builders builders' : Builders} {a b : Node}
  {nameHint nameHint' : String} {owner owner' : ClassId} {s s' t t' : BuildState}
  {built built' : TypeRef × Node}

/-- Equal references lead to the same target, whose class or type is the same for both. -/
theorem buildReference_alike (h : builders.Alike builders') (same : a.value = b.value)
    (isReference : a.has "$ref") (ha : buildReference source builders a owner s = .ok built s')
    (hb : buildReference source builders' b owner' t = .ok built' t') :
    built.1.anonymous = built'.1.anonymous ∧ built.2.value = built'.2.value := by
  obtain ⟨resolved, found, keywords, type⟩ := buildReference_eq_ok ha
  obtain ⟨resolved', found', keywords', type'⟩ := buildReference_eq_ok hb
  obtain rfl := Except.ok.inj ((follow_congr same isReference found).symm.trans found')
  refine ⟨?_, by rw [keywords, keywords']⟩
  rcases type with ⟨isClass, id, eq⟩ | ⟨noClass, _, _, _, inner⟩
  · rcases type' with ⟨-, id', eq'⟩ | ⟨noClass, -⟩
    · rw [eq, eq']
      rfl
    · cases isClass.symm.trans noClass
  · rcases type' with ⟨isClass, -⟩ | ⟨-, _, _, _, inner'⟩
    · cases isClass.symm.trans noClass
    · exact (h.typeFor rfl inner inner').1

/-- Case by case over the two forms, which are alike: the parts of the types come from schemas of
equal values. -/
theorem buildType_alike (h : builders.Alike builders') (same : a.value = b.value)
    (ha : buildType source builders a nameHint owner s = .ok built s')
    (hb : buildType source builders' b nameHint' owner' t = .ok built' t') :
    built.1.anonymous = built'.1.anonymous ∧ built.2.value = built'.2.value := by
  rw [buildType_eq, Build.bind_eq_ok_iff] at ha hb
  obtain ⟨f, s₁, hf, ha⟩ := ha
  obtain ⟨g, t₁, hg, hb⟩ := hb
  obtain ⟨formA, rfl⟩ := Build.ofExcept_eq_ok_iff.1 hf
  obtain ⟨formB, rfl⟩ := Build.ofExcept_eq_ok_iff.1 hg
  cases Node.form_alike same formA formB with
  | reference =>
    cases Node.HasForm.of_form formA with
    | reference isReference => exact buildReference_alike h same isReference ha hb
  | any =>
    cases ha
    cases hb
    exact ⟨rfl, same⟩
  | enum =>
    obtain ⟨type, _, enum, ha⟩ := Build.bind_eq_ok_iff.1 ha
    obtain ⟨type', _, enum', hb⟩ := Build.bind_eq_ok_iff.1 hb
    cases ha
    cases hb
    obtain ⟨definition, rfl⟩ := buildEnum_eq_ok enum
    obtain ⟨definition', rfl⟩ := buildEnum_eq_ok enum'
    exact ⟨rfl, same⟩
  | nullable inner => exact h.typeFor inner ha hb
  | ofClass =>
    obtain ⟨id, _, -, ha⟩ := Build.bind_eq_ok_iff.1 ha
    obtain ⟨id', _, -, hb⟩ := Build.bind_eq_ok_iff.1 hb
    cases ha
    cases hb
    exact ⟨rfl, same⟩
  | anySequence =>
    cases ha
    cases hb
    exact ⟨rfl, same⟩
  | sequence inner =>
    obtain ⟨item, s₁, hitem, ha⟩ := Build.bind_eq_ok_iff.1 ha
    obtain ⟨item', t₁, hitem', hb⟩ := Build.bind_eq_ok_iff.1 hb
    obtain ⟨constraints, s₂, hconstraints, ha⟩ := Build.bind_eq_ok_iff.1 ha
    obtain ⟨constraints', t₂, hconstraints', hb⟩ := Build.bind_eq_ok_iff.1 hb
    cases ha
    cases hb
    obtain ⟨type, keywords⟩ := h.typeFor inner hitem hitem'
    have first := constraintsFor_congr keywords (Build.ofExcept_eq_ok_iff.1 hconstraints).1
    have second := (Build.ofExcept_eq_ok_iff.1 hconstraints').1
    rw [← constraintsFor_anonymous, type, constraintsFor_anonymous, second] at first
    refine ⟨?_, same⟩
    rw [TypeRef.anonymous, TypeRef.anonymous, type, Except.ok.inj first]
  | map inner =>
    obtain ⟨value, s₁, hvalue, ha⟩ := Build.bind_eq_ok_iff.1 ha
    obtain ⟨value', t₁, hvalue', hb⟩ := Build.bind_eq_ok_iff.1 hb
    cases ha
    cases hb
    exact ⟨congrArg TypeRef.map (h.typeFor inner hvalue hvalue').1, same⟩
  | plain type =>
    cases ha
    cases hb
    exact ⟨rfl, same⟩

/-- The builders to any two depths give schemas of the same value the same types. The induction is
on both depths: each type is built from types one step further down. -/
theorem builders_alike (source : Source) (depth depth' : Nat) :
    (SchemaClasses.builders source depth).Alike (SchemaClasses.builders source depth') := by
  induction depth generalizing depth' with
  | zero => exact ⟨fun _ ha _ => by cases ha⟩
  | succ depth ih =>
    cases depth' with
    | zero => exact ⟨fun _ _ hb => by cases hb⟩
    | succ depth' => exact ⟨fun same ha hb => buildType_alike (ih depth') same ha hb⟩

end

end SchemaClasses
