import SchemaClasses.Proofs.Build.Effects

/-!
# The forms of schemas

What a schema is the schema of is told from the schema alone, before anything is built: a reference,
a class, an enum, a type with null added, or a type with at most one schema inside. Building a type
is finding its form and then going on to the schemas that the form names.

## Main definitions

* `Form`: the forms.
* `Node.form`: the form of a schema.
* `Node.HasForm`: what a schema of a form has.
* `buildForm`: the type of a schema of a form.

## Main statements

* `Node.HasForm.of_form`: a schema has what its form says.
* `buildType_eq`: a type is built from the form of its schema.
* `buildReference_eq_ok`, `buildProperty_eq_ok`: what references and properties are built from.
-/

namespace SchemaClasses

/-- What a schema is the schema of. -/
inductive Form where
  | reference
  | any
  | enum
  /-- A type with null added. -/
  | nullable (alternative : Node)
  | ofClass
  /-- A sequence without a schema for its items. -/
  | anySequence
  | sequence (items : Node)
  | map (values : Node)
  /-- A type without parts. -/
  | plain (type : TypeRef)

/-- The type of a name is one without parts. -/
theorem eq_primitive_of_primitiveType {name : String} {format : Value} {type : TypeRef}
    (h : primitiveType name format = .ok type) : ∃ kind, type = .primitive kind format := by
  unfold primitiveType at h
  split at h
  · obtain ⟨kind, -, h⟩ := Except.bind_eq_ok_iff.1 h
    cases h
    exact ⟨kind, rfl⟩
  all_goals
    cases h
    exact ⟨_, rfl⟩

namespace Node

def sequenceForm (node : Node) : Except Failure Form :=
  match node.member? "items" with
  | none => .ok .anySequence
  | some items =>
    if items.isArray then unsupported items.path "tuple items"
    else if !items.isObject then .ok .anySequence
    else .ok (.sequence items)

def mapForm (node : Node) : Form :=
  match node.member? "additionalProperties" with
  | none => .any
  | some values => if values.isObject then .map values else .any

/-- The form of a schema by the name in `type`, if it is neither a reference, an enum, a type with
null added, nor a class. -/
def plainForm (node : Node) (types : List String) : Except Failure Form :=
  match types with
  | [] =>
    if node.has "items" then node.sequenceForm
    else if isComposed node then unsupported node.path "composition of non-object schemas"
    else .ok .any
  | name :: _ =>
    match name with
    | "array" => node.sequenceForm
    | "object" => .ok node.mapForm
    | "string" | "integer" | "number" | "boolean" => do
      return .plain (← primitiveType name (node.valueOf "format"))
    | _ => unsupported node.path ("type " ++ Text.quote name)

/-- The alternative beside null in a choice, if the type of the schema is that with null added. -/
def beside? (node : Node) : Option Node :=
  (nullableAlternative? node).filter fun _ => !node.has "allOf"

def form (node : Node) : Except Failure Form :=
  if node.has "$ref" then .ok .reference
  else if !node.isObject then .ok .any
  else do
    let types ← typeNames node
    if node.has "enum" then return .enum
    else match node.beside? with
      | some alternative => return .nullable alternative
      | none => if ← isClassSchema node false then return .ofClass else node.plainForm types

end Node

namespace Node

/-- What a schema of a form has. -/
inductive HasForm (node : Node) : Form → Prop
  | reference (isReference : node.has "$ref") : HasForm node .reference
  | any : HasForm node .any
  | enum : HasForm node .enum
  | nullable {alternative : Node} (direct : ¬node.has "$ref")
      (beside : node.beside? = some alternative) : HasForm node (.nullable alternative)
  | ofClass (isClass : isClassSchema node false = .ok true) : HasForm node .ofClass
  | anySequence : HasForm node .anySequence
  | sequence {items : Node} (direct : ¬node.has "$ref")
      (found : node.member? "items" = some items) : HasForm node (.sequence items)
  | map {values : Node} (direct : ¬node.has "$ref")
      (found : node.member? "additionalProperties" = some values) : HasForm node (.map values)
  | plain {name : String} {type : TypeRef}
      (isPrimitive : primitiveType name (node.valueOf "format") = .ok type) :
      HasForm node (.plain type)

variable {node : Node} {form : Form}

theorem HasForm.of_sequenceForm (direct : ¬node.has "$ref") (h : node.sequenceForm = .ok form) :
    node.HasForm form := by
  unfold sequenceForm at h
  split at h
  · cases h
    exact .anySequence
  · rename_i items found
    split at h
    · cases h
    · split at h
      · cases h
        exact .anySequence
      · cases h
        exact .sequence direct found

theorem HasForm.of_mapForm (direct : ¬node.has "$ref") : node.HasForm node.mapForm := by
  unfold mapForm
  split
  · exact .any
  · rename_i values found
    split
    · exact .map direct found
    · exact .any

theorem HasForm.of_plainForm (direct : ¬node.has "$ref") {types : List String}
    (h : node.plainForm types = .ok form) : node.HasForm form := by
  have primitive {name : String}
      (h : (do return Form.plain (← primitiveType name (node.valueOf "format"))) =
        Except.ok form) : node.HasForm form := by
    obtain ⟨type, isPrimitive, h⟩ := Except.bind_eq_ok_iff.1 h
    cases h
    exact .plain isPrimitive
  unfold plainForm at h
  split at h
  · split at h
    · exact .of_sequenceForm direct h
    · split at h
      · cases h
      · cases h
        exact .any
  · split at h
    · exact .of_sequenceForm direct h
    · cases h
      exact .of_mapForm direct
    · exact primitive h
    · exact primitive h
    · exact primitive h
    · exact primitive h
    · cases h

/-- The form of a schema shows in its keywords. -/
theorem HasForm.of_form (h : node.form = .ok form) : node.HasForm form := by
  unfold Node.form at h
  split at h
  · rename_i isReference
    cases h
    exact .reference isReference
  · rename_i direct
    split at h
    · cases h
      exact .any
    · obtain ⟨types, -, h⟩ := Except.bind_eq_ok_iff.1 h
      split at h
      · cases h
        exact .enum
      · split at h
        · rename_i beside
          cases h
          exact .nullable direct beside
        · obtain ⟨isClass, hclass, h⟩ := Except.bind_eq_ok_iff.1 h
          split at h
          · rename_i yes
            cases h
            exact .ofClass (yes ▸ hclass)
          · exact .of_plainForm direct h

end Node

/-- The type of a schema of a form, and the schema that its validation keywords are read from. -/
def buildForm (source : Source) (builders : Builders) (node : Node) (nameHint : String)
    (owner : ClassId) : Form → Build (TypeRef × Node)
  | .reference => buildReference source builders node owner
  | .any => return (anyType, node)
  | .enum => return (← buildEnum node nameHint owner, node)
  | .nullable alternative => builders.typeFor alternative nameHint owner
  | .ofClass => return (.ofClass (← builders.classFor node nameHint (some owner)), node)
  | .anySequence => return (.sequence anyType [], node)
  | .sequence items => do
    let (item, source) ← builders.typeFor items nameHint owner
    return (.sequence item (← Build.ofExcept (constraintsFor source item)), node)
  | .map values => do
    let (value, _) ← builders.typeFor values nameHint owner
    return (.map value, node)
  | .plain type => return (type, node)

section

variable {source : Source} {builders : Builders} {node : Node} {nameHint : String}
  {owner : ClassId}

theorem Build.ofExcept_bind_ok {α β : Type} (x : α) (next : α → Build β) :
    Build.ofExcept (.ok x) >>= next = next x := rfl

theorem Build.ofExcept_bind_error {α β : Type} (failure : Failure) (next : α → Build β) :
    Build.ofExcept (.error failure) >>= next = throw failure := rfl

/-- Building a sequence is building its form. -/
theorem buildSequence_eq : (do return (← buildSequence builders node nameHint owner, node)) =
    Build.ofExcept node.sequenceForm >>= buildForm source builders node nameHint owner := by
  unfold buildSequence Node.sequenceForm
  cases node.member? "items" with
  | none => rfl
  | some items =>
    by_cases isArray : items.isArray
    · simp only [if_pos isArray]
      rfl
    · by_cases isObject : items.isObject
      · simp only [isArray, isObject, Bool.not_true, Bool.false_eq_true, if_false, bind_assoc,
          pure_bind]
        rfl
      · simp only [isArray, isObject, Bool.not_false, Bool.false_eq_true, if_false, if_true]
        rfl

theorem buildMap_eq : (do return (← buildMap builders node nameHint owner, node)) =
    buildForm source builders node nameHint owner node.mapForm := by
  unfold buildMap Node.mapForm
  cases node.member? "additionalProperties" with
  | none => rfl
  | some values =>
    by_cases isObject : values.isObject
    · simp only [if_pos isObject, bind_assoc, pure_bind]
      rfl
    · simp only [if_neg isObject]
      rfl

/-- The names of types that have a form of their own. -/
def plainTypeNames : List String := ["array", "object", "string", "integer", "number", "boolean"]

theorem Node.plainForm_of_unknown {name : String} (unknown : name ∉ plainTypeNames)
    (others : List String) : node.plainForm (name :: others) =
      SchemaClasses.unsupported node.path ("type " ++ Text.quote name) := by
  unfold Node.plainForm
  simp only
  split <;> first | rfl | exact absurd (by decide) unknown

theorem buildPlainType_of_unknown {name : String} (unknown : name ∉ plainTypeNames)
    (others : List String) : buildPlainType builders node (name :: others) nameHint owner =
      Build.unsupported node.path ("type " ++ Text.quote name) := by
  unfold buildPlainType
  simp only
  split <;> first | rfl | exact absurd (by decide) unknown

/-- Building a type by its name is building the form of that name. -/
theorem buildPlainType_eq (types : List String) :
    (do return (← buildPlainType builders node types nameHint owner, node)) =
      Build.ofExcept (node.plainForm types) >>=
        buildForm source builders node nameHint owner := by
  cases types with
  | nil =>
    unfold buildPlainType Node.plainForm
    by_cases isSequence : node.has "items"
    · simp only [if_pos isSequence]
      exact buildSequence_eq
    · by_cases composed : isComposed node
      · simp only [isSequence, composed, Bool.false_eq_true, if_false, if_true]
        rfl
      · simp only [isSequence, composed, Bool.false_eq_true, if_false]
        rfl
  | cons name rest =>
    have primitive (name : String) : (do
        return (← Build.ofExcept (primitiveType name (node.valueOf "format")), node)) =
        Build.ofExcept (do return Form.plain (← primitiveType name (node.valueOf "format"))) >>=
          buildForm source builders node nameHint owner := by
      cases primitiveType name (node.valueOf "format") <;> rfl
    by_cases known : name ∈ plainTypeNames
    · simp only [plainTypeNames, List.mem_cons, List.not_mem_nil, or_false] at known
      rcases known with rfl | rfl | rfl | rfl | rfl | rfl
      · exact buildSequence_eq
      · exact buildMap_eq
      · exact primitive "string"
      · exact primitive "integer"
      · exact primitive "number"
      · exact primitive "boolean"
    · rw [Node.plainForm_of_unknown known, buildPlainType_of_unknown known]
      rfl

/-- The type of a schema is built from its form. -/
theorem buildType_eq : buildType source builders node nameHint owner =
    Build.ofExcept node.form >>= buildForm source builders node nameHint owner := by
  unfold buildType Node.form Node.beside?
  by_cases isReference : node.has "$ref"
  · simp only [if_pos isReference]
    rfl
  · by_cases isObject : node.isObject
    · simp only [isReference, isObject, Bool.not_true, Bool.false_eq_true, if_false]
      cases typeNames node with
      | error failure => rfl
      | ok types =>
        by_cases isEnum : node.has "enum"
        · simp only [if_pos isEnum]
          rfl
        · simp only [isEnum, Bool.false_eq_true, if_false, Build.ofExcept_bind_ok]
          cases (nullableAlternative? node).filter fun _ => !node.has "allOf" with
          | some alternative => rfl
          | none =>
            simp only
            cases isClassSchema node false with
            | error failure => rfl
            | ok isClass =>
              cases isClass with
              | true => rfl
              | false => exact buildPlainType_eq types
    · simp only [isReference, isObject, Bool.not_false, Bool.false_eq_true, if_false, if_true]
      rfl

/-! ## Results -/

section

variable {s s' : BuildState}

/-- The type of an enum schema is the enum that has been declared for it. -/
theorem buildEnum_eq_ok {type : TypeRef} (h : buildEnum node nameHint owner s = .ok type s') :
    ∃ definition, type = .enum definition := by
  simp only [buildEnum, Build.bind_eq_ok_iff] at h
  obtain ⟨values, _, -, types, _, -, h⟩ := h
  split at h
  · cases h
  · obtain ⟨graph, _, -, h⟩ := Build.bind_eq_ok_iff.1 h
    cases declared : (graph.get owner).enums.find? (·.path = node.path) with
    | some definition =>
      simp only [declared] at h
      cases h
      exact ⟨definition, rfl⟩
    | none =>
      simp only [declared, Build.bind_eq_ok_iff] at h
      obtain ⟨name, _, -, _, _, -, _, _, -, h⟩ := h
      cases h
      exact ⟨_, rfl⟩

/-- Releasing a pointer changes no result. -/
theorem Build.releasing_eq_ok {α : Type} {pointer : String} {step : Build α} {x : α}
    (h : Build.releasing pointer step s = .ok x s') : ∃ t, step s = .ok x t := by
  unfold Build.releasing at h
  split at h
  · rename_i run
    cases h
    exact ⟨_, run⟩
  · cases h

/-- The type of a reference is a class, or the type of its target. Its validation keywords are read
from the target. -/
theorem buildReference_eq_ok {built : TypeRef × Node}
    (h : buildReference source builders node owner s = .ok built s') :
    ∃ resolved, follow source.root node = .ok resolved ∧ built.2 = resolved.target ∧
      ((isClassSchema resolved.target true = .ok true ∧ ∃ id, built.1 = .ofClass id) ∨
        (isClassSchema resolved.target true = .ok false ∧ ∃ keywords t t',
          builders.typeFor resolved.target (Pointer.tail resolved.pointer) owner t =
            .ok (built.1, keywords) t')) := by
  simp only [buildReference, Build.bind_eq_ok_iff] at h
  obtain ⟨resolved, _, found, isClass, _, hclass, h⟩ := h
  obtain ⟨follows, rfl⟩ := Build.ofExcept_eq_ok_iff.1 found
  obtain ⟨asked, rfl⟩ := Build.ofExcept_eq_ok_iff.1 hclass
  refine ⟨resolved, follows, ?_⟩
  split at h
  · rename_i yes
    obtain ⟨id, _, -, h⟩ := Build.bind_eq_ok_iff.1 h
    cases h
    exact ⟨rfl, .inl ⟨yes ▸ asked, id, rfl⟩⟩
  · rename_i no
    have noClass : isClass = false := by simpa using no
    obtain ⟨state, _, -, h⟩ := Build.bind_eq_ok_iff.1 h
    split at h
    · cases h
    · simp only [Build.bind_eq_ok_iff] at h
      obtain ⟨_, _, -, inner, _, released, h⟩ := h
      cases h
      obtain ⟨_, release⟩ := Build.releasing_eq_ok released
      obtain ⟨_, t, -, inner⟩ := Build.bind_eq_ok_iff.1 release
      exact ⟨rfl, .inr ⟨noClass ▸ asked, _, t, _, inner⟩⟩

/-- What a property is made of: the type of its schema, the default and the validation keywords. -/
theorem buildProperty_eq_ok {name : String} {isRequired : Bool} {property : Property}
    (h : buildProperty builders name node isRequired owner s = .ok property s') :
    ∃ type keywords default? constraints,
      builders.typeFor node name owner s = .ok (type, keywords) s' ∧
      propertyDefault node type isRequired = .ok default? ∧
      constraintsFor keywords type = .ok constraints ∧
      property = {
        name, type
        nullable := admitsNull node || (!isRequired && default?.isNone)
        required := isRequired
        default?
        constraints := (if isRequired && !admitsNull node then [⟨.required, .null⟩] else []) ++
          constraints
        path := node.path } := by
  unfold buildProperty at h
  split at h
  · cases h
  · simp only [Build.bind_eq_ok_iff] at h
    obtain ⟨⟨type, keywords⟩, _, typed, default?, _, hdefault, constraints, _, hconstraints, h⟩ := h
    obtain ⟨given, rfl⟩ := Build.ofExcept_eq_ok_iff.1 hdefault
    obtain ⟨collected, rfl⟩ := Build.ofExcept_eq_ok_iff.1 hconstraints
    cases h
    exact ⟨type, keywords, default?, constraints, typed, given, collected, rfl⟩

end

end

end SchemaClasses
