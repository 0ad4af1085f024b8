import SchemaClasses.Generation
import SchemaClasses.Proofs.Build.Alike
import SchemaClasses.Proofs.Build.Keywords
import SchemaClasses.Proofs.Decidable

/-!
# Properties whose schema is a reference

A property that refers to a schema is compared with one that has this schema in place of the
reference. Both have the same checks on the items of sequences. But what the schema says about null
is only looked at in place, and so are the validation keywords of an alternative beside null.

## Main definitions

* `TypeRef.itemChecks`: the checks on the items of a type, level by level.

## Main statements

* `buildProperty_reference_iff`: when the two properties have the same checks.
-/

namespace SchemaClasses

/-- The constraints on the items of a type, from the outermost sequence or map inwards. -/
def TypeRef.itemChecks : TypeRef → List (List Constraint)
  | .sequence item constraints => constraints :: item.itemChecks
  | .map value => [] :: value.itemChecks
  | _ => []

theorem TypeRef.itemChecks_anonymous (type : TypeRef) :
    type.anonymous.itemChecks = type.itemChecks := by
  induction type with
  | sequence item constraints ih => simp only [anonymous, itemChecks, ih]
  | map value ih => simp only [anonymous, itemChecks, ih]
  | _ => rfl

/-- Two types have the same checks: on their items, and from the keywords of any schema. -/
structure TypeRef.SameChecks (type type' : TypeRef) : Prop where
  items : type.itemChecks = type'.itemChecks
  keywords : ∀ node, constraintsFor node type = constraintsFor node type'

theorem TypeRef.SameChecks.of_anonymous {type type' : TypeRef}
    (same : type.anonymous = type'.anonymous) : type.SameChecks type' := by
  constructor
  · rw [← itemChecks_anonymous type, same, itemChecks_anonymous]
  · intro node
    rw [← constraintsFor_anonymous node type, same, constraintsFor_anonymous]

/-! ## References and their targets -/

section

variable {node : Node}

theorem nullableAlternative?_of_not_composed (single : ¬isComposed node) :
    nullableAlternative? node = none := by
  rw [Option.eq_none_iff_forall_ne_some]
  intro alternative found
  obtain ⟨keyword, alternatives, isChoice, member, -⟩ := Node.mem_of_nullableAlternative? found
  exact single (Node.isComposed_of_member? isChoice member)

theorem mapForm_of_not_isMap (isMap : ¬(node.member? "additionalProperties").any (·.isObject)) :
    node.mapForm = .any := by
  unfold Node.mapForm
  cases found : node.member? "additionalProperties" with
  | none => rfl
  | some values =>
    have noSchema : ¬values.isObject := by simpa [found] using isMap
    simp [noSchema]

/-- A bare object is a class where it is referred to, and anything in place. -/
theorem form_of_bare (isClass : isClassSchema node true = .ok true)
    (noClass : isClassSchema node false = .ok false) : node.form = .ok .any := by
  have given := isClass
  unfold isClassSchema at isClass
  split at isClass
  · cases isClass
  · rename_i object
    simp only [Bool.or_eq_true, Bool.not_eq_true', not_or] at object
    obtain ⟨⟨isObject, direct⟩, noEnum⟩ := object
    obtain ⟨types, htypes, isClass⟩ := Except.bind_eq_ok_iff.1 isClass
    have bare : ¬isComposed node ∧ ¬node.has "properties" := by
      unfold isClassSchema at given noClass
      grind [Except.bind_eq_ok_iff]
    obtain ⟨single, noProperties⟩ := bare
    simp only [single, noProperties, Bool.false_eq_true, if_false] at isClass
    split at isClass
    · cases isClass
    · rename_i objects
      have isBare := Except.ok.inj isClass
      simp only [Bool.and_true, Bool.and_eq_true, Bool.not_eq_true'] at isBare
      have plain : node.plainForm types = .ok .any := by
        have isAny : node.mapForm = .any := mapForm_of_not_isMap (by simpa using isBare.2)
        cases types with
        | nil => cases isBare.1
        | cons first rest =>
          obtain rfl : first = "object" := by simp_all
          simp only [Node.plainForm, isAny]
      have noBeside : node.beside? = none := by
        simp [Node.beside?, nullableAlternative?_of_not_composed single]
      unfold Node.form
      simp only [direct, isObject, noEnum, htypes, noBeside, noClass, Bool.not_true,
        Bool.false_eq_true, if_false, bind, Except.bind, plain]

/-- A chain that is followed ends at a schema that is no reference. -/
theorem not_reference_of_followFrom {root : Node} {fuel : Nat} {pointer : String}
    {seen : List String} {resolved : Resolved}
    (found : followFrom root fuel pointer seen node = .ok resolved) :
    ¬resolved.target.has "$ref" := by
  induction fuel generalizing pointer seen node with
  | zero => cases found
  | succ fuel ih =>
    unfold followFrom at found
    split at found
    · rename_i last
      cases found
      simp [Node.has, last]
    · simp only at found
      split at found
      · cases found
      · obtain ⟨target, -, found⟩ := Except.bind_eq_ok_iff.1 found
        exact ih found
    · obtain ⟨_, -, found⟩ := Except.bind_eq_ok_iff.1 found
      cases found

/-- The end of a chain of references is no reference. -/
theorem not_reference_of_follow {root : Node} {resolved : Resolved}
    (found : follow root node = .ok resolved) : ¬resolved.target.has "$ref" :=
  not_reference_of_followFrom found

/-- The keywords of a schema that is no reference are its own, unless its type has null added. -/
theorem keywords_eq_of_buildType {source : Source} {builders : Builders} {nameHint : String}
    {owner : ClassId} {s s' : BuildState} {type : TypeRef} {keywords : Node}
    (direct : ¬node.has "$ref") (noBeside : node.beside? = none)
    (built : buildType source builders node nameHint owner s = .ok (type, keywords) s') :
    keywords = node := by
  rw [buildType_eq, Build.bind_eq_ok_iff] at built
  obtain ⟨form, _, hform, built⟩ := built
  obtain ⟨isForm, rfl⟩ := Build.ofExcept_eq_ok_iff.1 hform
  cases Node.HasForm.of_form isForm with
  | reference isReference => exact absurd isReference direct
  | nullable _ beside =>
    rw [noBeside] at beside
    cases beside
  | any | anySequence | plain =>
    cases built
    rfl
  | enum | ofClass | map =>
    obtain ⟨_, _, -, built⟩ := Build.bind_eq_ok_iff.1 built
    cases built
    rfl
  | sequence =>
    obtain ⟨_, _, -, built⟩ := Build.bind_eq_ok_iff.1 built
    obtain ⟨_, _, -, built⟩ := Build.bind_eq_ok_iff.1 built
    cases built
    rfl

end

/-- The type of a reference has the same checks as the type of its target in place. -/
theorem sameChecks_of_reference {source : Source} {reference direct : Node} {resolved : Resolved}
    {depth depth' : Nat} {name name' : String} {owner owner' : ClassId} {s s' t t' : BuildState}
    {referred placed : TypeRef × Node} (isReference : reference.has "$ref")
    (found : follow source.root reference = .ok resolved)
    (noClass : isClassSchema resolved.target false = .ok false)
    (stands : direct.value = resolved.target.value)
    (built : (builders source depth).typeFor reference name owner s = .ok referred s')
    (built' : (builders source depth').typeFor direct name' owner' t = .ok placed t') :
    referred.2 = resolved.target ∧ referred.1.SameChecks placed.1 := by
  cases depth with
  | zero => cases built
  | succ depth =>
    change buildType source (builders source depth) reference name owner s = _ at built
    rw [buildType, if_pos isReference] at built
    obtain ⟨resolved', found', keywords, type⟩ := buildReference_eq_ok built
    obtain rfl := Except.ok.inj (found.symm.trans found')
    refine ⟨keywords, ?_⟩
    rcases type with ⟨isClass, id, eq⟩ | ⟨-, _, _, _, inner⟩
    · cases depth' with
      | zero => cases built'
      | succ depth' =>
        have isAny : direct.form = .ok .any := form_of_bare
          (isClassSchema_congr stands.symm isClass) (isClassSchema_congr stands.symm noClass)
        change buildType source (builders source depth') direct name' owner' t = _ at built'
        rw [buildType_eq, isAny, Build.ofExcept_bind_ok] at built'
        cases built'
        rw [eq]
        refine ⟨rfl, fun node => ?_⟩
        unfold constraintsFor
        split <;> rfl
    · exact .of_anonymous ((builders_alike source depth depth').typeFor stands.symm inner built').1

section

variable {source : Source} {name : String} {isRequired : Bool} {reference direct : Node}
  {resolved : Resolved} {depth depth' : Nat} {owner owner' : ClassId} {s s' t t' : BuildState}
  {referred placed : Property}

/-- A property that refers to a schema has the same checks on items as one that has the schema in
place. It differs in whether it may be null exactly when it is required and the schema admits null.
Otherwise the two have the same constraints exactly when the keywords of the schema say the same as
those of the schema that they are read from in place, which is another one only for an alternative
beside null. -/
theorem buildProperty_reference_iff (isReference : reference.has "$ref")
    (noDefault : (reference.valueOf "default").isNull)
    (found : follow source.root reference = .ok resolved)
    (noClass : isClassSchema resolved.target false = .ok false)
    (noDefault' : (resolved.target.valueOf "default").isNull)
    (stands : direct.value = resolved.target.value)
    (built : buildProperty (builders source depth) name reference isRequired owner s =
      .ok referred s')
    (built' : buildProperty (builders source depth') name direct isRequired owner' t =
      .ok placed t') :
    ∃ keywords, (builders source depth').typeFor direct name owner' t =
        .ok (placed.type, keywords) t' ∧
      (resolved.target.beside? = none → keywords = direct) ∧
      referred.type.itemChecks = placed.type.itemChecks ∧
      (referred.nullable = placed.nullable ↔ ¬(isRequired ∧ admitsNull resolved.target)) ∧
      (referred.constraints = placed.constraints ↔
        ¬(isRequired ∧ admitsNull resolved.target) ∧
          constraintsFor resolved.target placed.type = constraintsFor keywords placed.type) := by
  obtain ⟨type, target, default?, constraints, typed, hdefault, collected, rfl⟩ :=
    buildProperty_eq_ok built
  obtain ⟨type', keywords, default?', constraints', typed', hdefault', collected', rfl⟩ :=
    buildProperty_eq_ok built'
  obtain ⟨isTarget, same⟩ :=
    sameChecks_of_reference isReference found noClass stands typed typed'
  simp only at isTarget same
  subst isTarget
  have noDirect : (direct.valueOf "default").isNull := by rwa [Node.valueOf_congr stands]
  have none? : default? = none ∧ default?' = none := by
    unfold propertyDefault at hdefault hdefault'
    simp only [noDefault, noDirect, Bool.or_true, if_true, Except.ok.injEq] at hdefault hdefault'
    exact ⟨hdefault.symm, hdefault'.symm⟩
  obtain ⟨rfl, rfl⟩ := none?
  have unasked : admitsNull reference = false := by simp [admitsNull, isReference]
  have asked : admitsNull direct = admitsNull resolved.target := admitsNull_congr stands
  rw [same.keywords] at collected
  refine ⟨keywords, typed', fun noBeside => ?_, same.items, ?_, ?_⟩
  · have only : direct.beside? = none := by
      have beside := Node.beside?_congr stands
      rw [noBeside] at beside
      exact Option.map_eq_none_iff.1 beside
    have isDirect : ¬direct.has "$ref" := by
      rw [Node.has_congr stands]
      exact not_reference_of_follow found
    cases depth' with
    | zero => cases typed'
    | succ depth' => exact keywords_eq_of_buildType isDirect only typed'
  · simp only [unasked, asked]
    cases isRequired <;> cases admitsNull resolved.target <;> decide
  · have stems := stems_of_constraintsFor collected'
    simp only [unasked, asked, collected, collected', Except.ok.injEq]
    cases isRequired with
    | false => simp
    | true =>
      cases admitsNull resolved.target with
      | false => simp
      | true =>
        refine ⟨fun eq => ?_, fun both => absurd ⟨rfl, rfl⟩ both.1⟩
        have added : constraints' = ⟨.required, .null⟩ :: constraints := by simpa using eq.symm
        have first := stems ⟨.required, .null⟩ (added ▸ List.mem_cons_self)
        exact absurd rfl first.notRequired

end

def textOrNull : Value := .object [("oneOf", .array [
  .object [("type", .string "string"), ("minLength", .int 3)],
  .object [("type", .string "null")]])]

def textReference : Value := .object [("$ref", .string "#/definitions/N")]

/-- A document with the schema of such a text, and with two properties of a given schema, the second
of which is required. -/
def twoTexts (schema : Value) : Value := .object [
  ("definitions", .object [("N", textOrNull)]),
  ("properties", .object [("a", schema), ("b", schema)]),
  ("required", .array [.string "b"])]

def twoReferences : Source := ⟨.ofValue (twoTexts textReference), .string ""⟩

theorem follow_textReference : follow twoReferences.root ⟨"/properties/a", textReference⟩ =
    .ok ⟨"/definitions/N", ⟨"/definitions/N", textOrNull⟩⟩ := by
  decide +kernel

/-- The property that refers to the schema, and the one that has it in place. -/
theorem buildProperty_twoTexts (isRequired : Bool) :
    buildProperty (builders twoReferences 3) "a" ⟨"/properties/a", textReference⟩ isRequired 0 {} =
      .ok { name := "a", type := .primitive .string .null, nullable := !isRequired
            required := isRequired, constraints := if isRequired then [⟨.required, .null⟩] else []
            path := "/properties/a" } {} ∧
    buildProperty (builders twoReferences 3) "a" ⟨"/properties/a", textOrNull⟩ isRequired 0 {} =
      .ok { name := "a", type := .primitive .string .null, nullable := true
            required := isRequired, constraints := [⟨.minLength, .int 3⟩]
            path := "/properties/a" } {} := by
  cases isRequired <;> decide +kernel

theorem buildProperty_reference_iff_twoTexts : ∃ keywords,
    (builders twoReferences 3).typeFor ⟨"/properties/a", textOrNull⟩ "a" 0 {} =
      .ok (.primitive .string .null, keywords) {} ∧
    ([] = [(⟨.minLength, .int 3⟩ : Constraint)] ↔
      ¬(false ∧ admitsNull ⟨"/definitions/N", textOrNull⟩) ∧
        constraintsFor ⟨"/definitions/N", textOrNull⟩ (.primitive .string .null) =
          constraintsFor keywords (.primitive .string .null)) := by
  obtain ⟨built, built'⟩ := buildProperty_twoTexts false
  have stands : (⟨"/properties/a", textOrNull⟩ : Node).value =
      (⟨"/definitions/N", textOrNull⟩ : Node).value := rfl
  obtain ⟨keywords, typed, -, -, -, same⟩ := buildProperty_reference_iff (by decide) (by decide)
    follow_textReference (by decide +kernel) (by decide) stands built built'
  exact ⟨keywords, typed, same⟩

def propertiesInBrief (schema : Value) :
    Except Failure (List (String × Bool × List ConstraintKind)) := do
  let (graph, _) ← requestedClasses (.ofValue (twoTexts schema)) {} (.root (some "Holder"))
  return (graph.get 0).properties.map fun property =>
    (property.name, property.nullable, property.constraints.map (·.kind))

/-- With the schema in place of the references to it, both properties have a check that they do not
have otherwise, and the one that is required may be null. -/
theorem twoTexts_unlike :
    isClassSchema ⟨"/definitions/N", textOrNull⟩ true = .ok false ∧
    ((⟨"/definitions/N", textOrNull⟩ : Node).valueOf "default").isNull ∧
    follow twoReferences.root ⟨"/properties/a", textReference⟩ =
      .ok ⟨"/definitions/N", ⟨"/definitions/N", textOrNull⟩⟩ ∧
    propertiesInBrief textReference = .ok [("a", true, []), ("b", false, [.required])] ∧
    propertiesInBrief textOrNull = .ok [("a", true, [.minLength]), ("b", true, [.minLength])] := by
  decide +kernel

end SchemaClasses
