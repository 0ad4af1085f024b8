import SchemaClasses.Proofs.Emit.Accounted

/-!
# What accounts for a file that cannot be written

The files of classes whose properties are those of schemas of a document can be written in every
language, unless something has no form there or a number of the document cannot be written.

## Main statements

* `declarationText_accounted`: what the declaration of a class fails with, in every language.
* `fileText_accounts`: what the file of a class fails with.
-/

namespace SchemaClasses

open Emit

section

variable {root : Node} {context : Context} {size : Nat} {property : Property}

/-! ## Kotlin -/

theorem kotlin_field_accounted (root : Node) (property : Property) :
    Accounted root (Kotlin.field property) :=
  .ofExcept (fieldName_accounts root _ _)

/-- A parameter fails over the name, the type or the default of its property. -/
theorem kotlin_parameter_accounted (context : Context) (described : property.Described root size)
    (declares : Bool) : Accounted root (Kotlin.parameter context declares property) := by
  unfold Kotlin.parameter
  apply Accounted.bind (kotlin_field_accounted root property)
  intro name _
  apply Accounted.bind (fieldType_accounted context described)
  intro type _
  extract_lets text
  split
  · rename_i value given
    exact .bind (propertyDefault_accounted context described given) fun _ _ => .pure root _
  · exact .pure root _

/-- The guards of a property in Kotlin fail over the guards alone. -/
theorem kotlin_guards_accounted (context : Context) (described : property.Described root size) :
    Accounted root (Kotlin.guardsOfProperty context property) := by
  unfold Kotlin.guardsOfProperty
  apply Accounted.bind (writtenGuards_accounted context described)
  intro guards _
  apply Accounted.bind
  · apply Accounted.mapM
    intro guard _
    apply Accounted.bind (kotlin_field_accounted root property)
    intro name _
    exact guardLines_accounted root _ guard name "" (by simp)
  · intro lines _
    exact .pure root _

theorem kotlin_superclassCall_accounted (root : Node) (context : Context) (id : ClassId)
    (inherited : List Property) (base? : Option ClassId) :
    Accounted root (Kotlin.superclassCall context id inherited base?) := by
  unfold Kotlin.superclassCall
  split
  · exact .pure root _
  · apply Accounted.bind (.mapM fun property _ => kotlin_field_accounted root property)
    intro arguments _
    exact .bind (superclassName_accounted root context id _) fun _ _ => .pure root _

theorem kotlin_enum_accounted (root : Node) (definition : EnumDef) :
    Accounted root (Kotlin.enumSection definition) := by
  apply Accounted.bind (.mapM fun value _ => .ofExcept (enumConstant_accounts root _ _ value))
  intro constants _
  exact .pure root _

theorem kotlin_init_accounted (context : Context) {own : List Property}
    (described : ∀ property ∈ own, property.Described root size) :
    Accounted root (Kotlin.initSections context own) := by
  apply Accounted.bind (.mapM fun property mem =>
    kotlin_guards_accounted context (described property mem))
  intro lines _
  extract_lets lines
  split
  · exact .pure root _
  · exact .pure root _

theorem kotlin_equals_accounted (root : Node) (name : String) (extendsBase : Bool)
    (own : List Property) : Accounted root (Kotlin.equalsSection name extendsBase own) := by
  apply Accounted.bind (.mapM fun property _ =>
    .bind (kotlin_field_accounted root property) fun _ _ => .pure root _)
  intro comparisons _
  exact .pure root _

theorem kotlin_hash_accounted (root : Node) (extendsBase : Bool) (own : List Property) :
    Accounted root (Kotlin.hashSection extendsBase own) := by
  apply Accounted.bind (.mapM fun property _ =>
    .bind (kotlin_field_accounted root property) fun _ _ => .pure root _)
  intro terms _
  exact .pure root _

/-- The parts of a Kotlin class, each of which fails over the properties or the name of a class. -/
theorem kotlin_declaration_accounted (context : Context) (id : ClassId)
    (described : ∀ property, property ∈ (context.splitFields id).1 ∨
      property ∈ (context.splitFields id).2 → property.Described root size)
    {nested : Emit (List Section)} (inner : Accounted root nested) :
    Accounted root (Kotlin.declaration context id nested) := by
  unfold Kotlin.declaration
  extract_lets model base?
  cases split : context.splitFields id with
  | mk inherited own =>
    rw [split] at described
    have describedOwn : ∀ property ∈ own, property.Described root size :=
      fun property mem => described property (.inr mem)
    simp only
    apply Accounted.bind (.mapM fun property mem =>
      kotlin_parameter_accounted context (described property (.inl mem)) false)
    intro passed _
    apply Accounted.bind (.mapM fun property mem =>
      kotlin_parameter_accounted context (describedOwn property mem) true)
    intro declared _
    apply Accounted.bind (kotlin_superclassCall_accounted root context id inherited base?)
    intro supertype _
    apply Accounted.bind (.mapM fun definition _ => kotlin_enum_accounted root definition)
    intro enums _
    apply Accounted.bind (kotlin_init_accounted context describedOwn)
    intro init _
    split
    · apply Accounted.bind (kotlin_equals_accounted root _ _ _)
      intro _ _
      apply Accounted.bind (kotlin_hash_accounted root _ _)
      intro _ _
      apply Accounted.bind (.pure root _)
      intro _ _
      exact .bind inner fun _ _ => .pure root _
    · apply Accounted.bind (.pure root _)
      intro _ _
      exact .bind inner fun _ _ => .pure root _

/-! ## Java -/

theorem java_field_accounted (root : Node) (property : Property) :
    Accounted root (Java.field property) :=
  .ofExcept (fieldName_accounts root _ _)

theorem java_parameter_accounted (context : Context) (described : property.Described root size) :
    Accounted root (Java.parameter context property) := by
  apply Accounted.bind (typeName_accounted context described.type _)
  intro type _
  exact .bind (java_field_accounted root property) fun _ _ => .pure root _

theorem java_loopType_accounted (context : Context) (described : property.Described root size) :
    Accounted root (Java.loopType context property) := by
  have isType := described.type
  unfold Java.loopType
  split
  · rename_i item constraints isSequence
    rw [isSequence] at isType
    cases isType with
    | sequence isItem keywords => exact typeName_accounted context isItem true
  · exact .pure root _

/-- Setting a field in Java fails over its name, its type or its guards. -/
theorem java_assignment_accounted (context : Context) (described : property.Described root size) :
    Accounted root (Java.assignment context property) := by
  unfold Java.assignment
  apply Accounted.bind (java_field_accounted root property)
  intro name _
  apply Accounted.bind (java_loopType_accounted context described)
  intro itemType _
  apply Accounted.bind (writtenGuards_accounted context described)
  intro guards _
  apply Accounted.bind (.mapM fun guard _ => guardLines_accounted root _ guard name itemType (by simp))
  intro checks _
  simp only
  split
  · rename_i value given
    apply Accounted.bind (propertyDefault_accounted context described given)
    intro default _
    exact .bind (.pure root _) fun _ _ => .pure root _
  · exact .bind (.pure root _) fun _ _ => .pure root _

/-- The constructor in Java fails over the properties that it sets or passes on. -/
theorem java_constructor_accounted (context : Context) (name : String) (extendsBase : Bool)
    {inherited own : List Property}
    (describedInherited : ∀ property ∈ inherited, property.Described root size)
    (describedOwn : ∀ property ∈ own, property.Described root size) :
    Accounted root (Java.constructorSection context name extendsBase inherited own) := by
  have parameters : Accounted root ((inherited ++ own).mapM (Java.parameter context)) := by
    apply Accounted.mapM
    intro property mem
    rcases List.mem_append.1 mem with mem | mem
    · exact java_parameter_accounted context (describedInherited property mem)
    · exact java_parameter_accounted context (describedOwn property mem)
  have assignments : Accounted root (own.mapM (Java.assignment context)) :=
    .mapM fun property mem => java_assignment_accounted context (describedOwn property mem)
  unfold Java.constructorSection
  apply Accounted.bind parameters
  intro parameters _
  simp only
  split
  · apply Accounted.bind (.mapM fun property _ => java_field_accounted root property)
    intro arguments _
    apply Accounted.bind (.pure root _)
    intro _ _
    exact .bind assignments fun _ _ => .pure root _
  · apply Accounted.bind (.pure root _)
    intro _ _
    exact .bind assignments fun _ _ => .pure root _

theorem java_constructors_accounted (context : Context) (name : String) (extendsBase : Bool)
    {inherited own : List Property}
    (describedInherited : ∀ property ∈ inherited, property.Described root size)
    (describedOwn : ∀ property ∈ own, property.Described root size) :
    Accounted root (Java.constructorSections context name extendsBase inherited own) := by
  unfold Java.constructorSections
  split
  · exact .pure root _
  · exact .bind (java_constructor_accounted context name extendsBase describedInherited describedOwn)
      fun _ _ => .pure root _

theorem java_fieldLine_accounted (context : Context) (described : property.Described root size) :
    Accounted root (Java.fieldLine context property) := by
  apply Accounted.bind (fieldType_accounted context described)
  intro type _
  exact .bind (java_field_accounted root property) fun _ _ => .pure root _

theorem java_getter_accounted (context : Context) (described : property.Described root size) :
    Accounted root (Java.getterSection context property) := by
  apply Accounted.bind (java_field_accounted root property)
  intro name _
  exact .bind (fieldType_accounted context described) fun _ _ => .pure root _

theorem java_equalTest_accounted (context : Context) (described : property.Described root size) :
    Accounted root (Java.equalTest context property) := by
  unfold Java.equalTest
  apply Accounted.bind (java_field_accounted root property)
  intro name _
  apply Accounted.bind (fieldType_accounted context described)
  intro type _
  split
  · exact .pure root _
  · split
    · exact .pure root _
    · exact .pure root _

theorem java_unequalTest_accounted (context : Context) (described : property.Described root size) :
    Accounted root (Java.unequalTest context property) := by
  unfold Java.unequalTest
  apply Accounted.bind (java_field_accounted root property)
  intro name _
  apply Accounted.bind (fieldType_accounted context described)
  intro type _
  split
  · exact .pure root _
  · split
    · exact .bind (java_equalTest_accounted context described) fun _ _ => .pure root _
    · exact .pure root _

/-- Comparing fields in Java depends on their names and their types. -/
theorem java_comparisons_accounted (context : Context) {own : List Property}
    (described : ∀ property ∈ own, property.Described root size) :
    Accounted root (Java.comparisonLines context own) := by
  induction own using Java.comparisonLines.induct with
  | case1 => exact .pure root _
  | case2 property =>
    have only := described property List.mem_cons_self
    exact .bind (java_equalTest_accounted context only) fun _ _ => .pure root _
  | case3 property rest more ih =>
    have first := described property List.mem_cons_self
    cases rest with
    | nil => exact absurd rfl more
    | cons second rest =>
      apply Accounted.bind (java_unequalTest_accounted context first)
      intro test _
      apply Accounted.bind (ih fun other mem => described other (List.mem_cons_of_mem _ mem))
      intro others _
      exact .pure root _

theorem java_hashTerm_accounted (context : Context) (described : property.Described root size) :
    Accounted root (Java.hashTerm context property) := by
  unfold Java.hashTerm
  apply Accounted.bind (java_field_accounted root property)
  intro name _
  apply Accounted.bind (fieldType_accounted context described)
  intro type _
  split
  · exact .pure root _
  · exact .pure root _

theorem java_equals_accounted (context : Context) (name : String) (extendsBase : Bool)
    {own : List Property} (described : ∀ property ∈ own, property.Described root size) :
    Accounted root (Java.equalsSection context name extendsBase own) := by
  apply Accounted.bind (java_comparisons_accounted context described)
  intro comparisons _
  exact .pure root _

theorem java_hash_accounted (context : Context) (extendsBase : Bool) {own : List Property}
    (described : ∀ property ∈ own, property.Described root size) :
    Accounted root (Java.hashSection context extendsBase own) := by
  apply Accounted.bind (.mapM fun property mem =>
    java_hashTerm_accounted context (described property mem))
  intro terms _
  exact .pure root _

theorem java_enum_accounted (root : Node) (definition : EnumDef) :
    Accounted root (Java.enumSection definition) := by
  apply Accounted.bind (.mapM fun value _ => .ofExcept (enumConstant_accounts root _ _ value))
  intro constants _
  exact .pure root _

/-- The parts of a Java class, each of which fails over the properties or the name of a class. -/
theorem java_declaration_accounted (context : Context) (id : ClassId)
    (described : ∀ property, property ∈ (context.splitFields id).1 ∨
      property ∈ (context.splitFields id).2 → property.Described root size)
    {nested : Emit (List Section)} (inner : Accounted root nested) :
    Accounted root (Java.declaration context id nested) := by
  unfold Java.declaration
  extract_lets model base?
  cases split : context.splitFields id with
  | mk inherited own =>
    rw [split] at described
    have describedInherited : ∀ property ∈ inherited, property.Described root size :=
      fun property mem => described property (.inl mem)
    have describedOwn : ∀ property ∈ own, property.Described root size :=
      fun property mem => described property (.inr mem)
    simp -zeta only
    extract_lets extended
    have rest (extension : String) : Accounted root (extended extension) := by
      unfold extended
      apply Accounted.bind (.mapM fun property mem =>
        java_fieldLine_accounted context (describedOwn property mem))
      intro fields _
      apply Accounted.bind (java_constructors_accounted context _ _ describedInherited describedOwn)
      intro constructor _
      apply Accounted.bind (.mapM fun property mem =>
        java_getter_accounted context (describedOwn property mem))
      intro getters _
      extract_lets compared
      have finish (equality : List Section) : Accounted root (compared equality) := by
        unfold compared
        apply Accounted.bind (.mapM fun definition _ => java_enum_accounted root definition)
        intro _ _
        exact .bind inner fun _ _ => .pure root _
      split
      · apply Accounted.bind (java_equals_accounted context _ _ describedOwn)
        intro _ _
        apply Accounted.bind (java_hash_accounted context _ describedOwn)
        intro _ _
        exact .bind (.pure root _) fun equality _ => finish equality
      · exact .bind (.pure root _) fun equality _ => finish equality
    clear_value extended base?
    split
    · apply Accounted.bind (superclassName_accounted root context id _)
      intro name _
      exact .bind (.pure root _) fun extension _ => rest extension
    · exact .bind (.pure root _) fun extension _ => rest extension

/-! ## Python -/

theorem python_field_accounted (root : Node) (property : Property) :
    Accounted root (Python.field property) :=
  .ofExcept (fieldName_accounts root _ _)

/-- A field of Python fails over its name, its type or its default. -/
theorem python_fieldLine_accounted (context : Context) (id : ClassId)
    (described : property.Described root size) :
    Accounted root (Python.fieldLine context id property) := by
  unfold Python.fieldLine
  apply Accounted.bind (python_field_accounted root property)
  intro name _
  apply Accounted.bind (fieldType_accounted context described)
  intro type _
  extract_lets line
  split
  · exact .pure root _
  · rename_i value given
    extract_lets finish
    have goesOn (done : PUnit) : Accounted root (finish done) :=
      .bind (propertyDefault_accounted context described given) fun _ _ => .pure root _
    split
    · split
      · refine .bind (.unsupported root _ ?_) fun done _ => goesOn done
        exact noType_of_length (lt_length_append_right (by decide))
      · exact goesOn ⟨⟩
    · exact goesOn ⟨⟩

/-- The guards of a property in Python fail over the guards, or over items of unknown type. -/
theorem python_guards_accounted (context : Context) (described : property.Described root size) :
    Accounted root (Python.guardsOfProperty context property) := by
  unfold Python.guardsOfProperty
  apply Accounted.bind (writtenGuards_accounted context described)
  intro guards gives
  have compares := Emit.Gives.compares described gives
  apply Accounted.bind
  · apply Accounted.mapM
    intro guard mem
    apply Accounted.bind (python_field_accounted root property)
    intro name _
    apply Accounted.bind (freezingKey_accounted (compares guard mem))
    intro key? gives
    exact guardLines_accounted root _ guard _ "" (isKey_of_freezingKey gives)
  · intro lines _
    exact .pure root _

theorem python_anyGuarded_accounted (context : Context) {properties : List Property}
    (described : ∀ property ∈ properties, property.Described root size) :
    Accounted root (Python.anyGuarded context properties) := by
  induction properties with
  | nil => exact .pure root _
  | cons property rest ih =>
    unfold Python.anyGuarded
    apply Accounted.bind (writtenGuards_accounted context (described property List.mem_cons_self))
    intro guards _
    split
    · exact ih fun other mem => described other (List.mem_cons_of_mem _ mem)
    · exact .pure root _

theorem python_checks_accounted (context : Context) {inherited own : List Property}
    (describedInherited : ∀ property ∈ inherited, property.Described root size)
    (describedOwn : ∀ property ∈ own, property.Described root size) :
    Accounted root (Python.checkSections context inherited own) := by
  apply Accounted.bind (.mapM fun property mem =>
    python_guards_accounted context (describedOwn property mem))
  intro lines _
  extract_lets lines
  split
  · exact .pure root _
  · exact .bind (python_anyGuarded_accounted context describedInherited) fun _ _ => .pure root _

/-- An enum in Python fails over a value without a name for its constant. -/
theorem python_enum_accounted (root : Node) (definition : EnumDef) :
    Accounted root (Python.enumSection definition) := by
  unfold Python.enumSection
  apply Accounted.bind (requireSymbol_accounted root _ _)
  intro _ _
  apply Accounted.bind
  · apply Accounted.mapM
    intro value _
    apply Accounted.bind (.ofExcept (enumConstant_accounts root _ _ value))
    intro name _
    exact .pure root _
  · intro members _
    extract_lets finish
    split
    · refine .bind (.unsupported root _ ?_) fun _ _ => .pure root _
      exact noType_of_length (lt_length_append_right (by decide))
    · exact .pure root _

theorem python_anyFreezing_accounts {properties : List Property}
    (described : ∀ property ∈ properties, property.Described root size) :
    root.Accounts (Python.anyFreezing properties) := by
  induction properties with
  | nil => exact .ok _
  | cons property rest ih =>
    unfold Python.anyFreezing
    apply Node.Accounts.bind (needsFreezing_accounts (described property List.mem_cons_self).type)
    intro freezes _
    split
    · exact .ok _
    · exact ih fun other mem => described other (List.mem_cons_of_mem _ mem)

/-- The hash in Python fails over fields of unknown type. -/
theorem python_hash_accounted {properties : List Property}
    (described : ∀ property ∈ properties, property.Described root size) :
    Accounted root (Python.hashSections properties) := by
  unfold Python.hashSections
  apply Accounted.bind (.ofExcept (python_anyFreezing_accounts described))
  intro freezes _
  split
  · exact .pure root _
  · apply Accounted.bind (.modify root _)
    intro _ _
    apply Accounted.bind
    · apply Accounted.mapM
      intro property mem
      apply Accounted.bind (python_field_accounted root property)
      intro name _
      apply Accounted.bind (.ofExcept (needsFreezing_accounts (described property mem).type))
      intro freezes _
      split
      · exact .pure root _
      · exact .pure root _
    · intro terms _
      exact .pure root _

theorem python_baseName_accounted (root : Node) (context : Context) (base : ClassId) :
    Accounted root (Python.baseName context base) := by
  unfold Python.baseName
  extract_lets top finish
  split
  · exact .bind (.modify root _) fun _ _ => .pure root _
  · exact .pure root _

/-- The parts of a Python class, each of which fails over the properties or the name of a class. -/
theorem python_declaration_accounted (context : Context) (id : ClassId)
    (described : ∀ property, property ∈ (context.splitFields id).1 ∨
      property ∈ (context.splitFields id).2 → property.Described root size)
    {nested : Emit (List Section)} (inner : Accounted root nested) :
    Accounted root (Python.declaration context id nested) := by
  unfold Python.declaration
  extract_lets model base?
  cases split : context.splitFields id with
  | mk inherited own =>
    rw [split] at described
    have describedInherited : ∀ property ∈ inherited, property.Described root size :=
      fun property mem => described property (.inl mem)
    have describedOwn : ∀ property ∈ own, property.Described root size :=
      fun property mem => described property (.inr mem)
    simp -zeta only
    apply Accounted.bind (.mapM fun property mem =>
      python_fieldLine_accounted context id (describedOwn property mem))
    intro fields _
    apply Accounted.bind (python_checks_accounted context describedInherited describedOwn)
    intro checks _
    apply Accounted.bind (.mapM fun definition _ => python_enum_accounted root definition)
    intro enums _
    apply Accounted.bind inner
    intro inner _
    extract_lets hashed
    have rest (hash : List Section) : Accounted root (hashed hash) := by
      unfold hashed
      extract_lets sections shown named
      have finish (bases : String) : Accounted root (named bases) := by
        unfold named
        simp only
        split
        · exact .pure root _
        · exact .bind (requireSymbol_accounted root _ _) fun _ _ => .pure root _
      clear_value named base?
      split
      · apply Accounted.bind (python_baseName_accounted root context _)
        intro name _
        exact .bind (.pure root _) fun bases _ => finish bases
      · exact .bind (.pure root _) fun bases _ => finish bases
    have all : ∀ property ∈ inherited ++ own, property.Described root size := by
      intro property mem
      exact described property (List.mem_append.1 mem)
    clear_value hashed
    split
    · exact .bind (.pure root _) fun hash _ => rest hash
    · exact .bind (python_hash_accounted all) fun hash _ => rest hash

/-! ## Files -/

theorem declarationText_accounted (context : Context) (id : ClassId)
    (described : ∀ property, property ∈ (context.splitFields id).1 ∨
      property ∈ (context.splitFields id).2 → property.Described root size)
    {nested : Emit (List Section)} (inner : Accounted root nested) :
    Accounted root (context.declarationText id nested) := by
  unfold Context.declarationText
  split
  · exact .map (kotlin_declaration_accounted context id described inner) _
  · exact .map (java_declaration_accounted context id described inner) _
  · exact .map (python_declaration_accounted context id described inner) _

def ClassGraph.Describes (root : Node) (graph : ClassGraph) : Prop :=
  ∀ id, ∀ property ∈ (graph.get id).properties, property.Described root graph.size

/-- All properties of a class, inherited ones too, are those of schemas. -/
theorem described_of_mem_splitFields (describes : context.graph.Describes root) (id : ClassId) :
    ∀ property, property ∈ (context.splitFields id).1 ∨ property ∈ (context.splitFields id).2 →
      property.Described root context.graph.size := by
  have all {base : ClassId} {property : Property} (mem : property ∈ context.graph.allProperties base) :
      property.Described root context.graph.size := by
    obtain ⟨owner, -, mem⟩ := List.mem_flatMap.1 mem
    exact describes owner property mem
  intro property mem
  unfold Context.splitFields at mem
  split at mem
  · exact all (mem.resolve_left List.not_mem_nil)
  · rcases mem with mem | mem
    · exact all mem
    · exact describes id property mem

mutual

theorem classText_accounted (context : Context) (describes : context.graph.Describes root)
    (tree : ClassTree) : Accounted root (context.classText tree) := by
  cases tree with
  | node id nested =>
    unfold Context.classText
    have within : (context.within id).graph.Describes root := describes
    exact declarationText_accounted _ id (described_of_mem_splitFields within id)
      (nestedSections_accounted context describes nested)

/-- By induction on the trees. -/
theorem nestedSections_accounted (context : Context) (describes : context.graph.Describes root)
    (trees : List ClassTree) : Accounted root (context.nestedSections trees) := by
  cases trees with
  | nil =>
    unfold Context.nestedSections
    exact .pure root _
  | cons tree rest =>
    have others := nestedSections_accounted context describes rest
    unfold Context.nestedSections
    split
    · exact others
    · apply Accounted.bind (classText_accounted context describes tree)
      intro text _
      exact .bind others fun _ _ => .pure root _

end

theorem foldlM_accounts {α β : Type} {root : Node} {f : β → α → Except Failure β} {as : List α}
    (h : ∀ b a, root.Accounts (f b a)) (start : β) : root.Accounts (as.foldlM f start) := by
  induction as generalizing start with
  | nil => exact .ok _
  | cons a rest ih =>
    rw [List.foldlM_cons]
    exact .bind (h start a) fun b _ => ih b

/-- By induction on the fuel: classes that need each other cannot be put in an order. -/
theorem hoist_accounts (root : Node) (context : Context) (top : ClassId) (fuel : Nat) (id : ClassId)
    (hoisting : Python.Hoisting) : root.Accounts (Python.hoist context top fuel id hoisting) := by
  have refused {name : String} : root.Accounts (unsupportedIn .python
      (name ++ " cannot be declared after its base class") : Except Failure Python.Hoisting) :=
    .error (.target _ (noType_of_length (lt_length_append_right (by decide))))
  induction fuel generalizing id hoisting with
  | zero =>
    unfold Python.hoist
    split
    · exact .ok _
    · exact refused
  | succ fuel ih =>
    unfold Python.hoist
    split
    · exact .ok _
    · simp only
      split
      · exact refused
      · exact .bind (foldlM_accounts (fun hoisting id => ih id hoisting) _) fun _ _ => .ok _

theorem hoistingOrder_accounts (root : Node) (context : Context) (top : ClassId) :
    root.Accounts (Python.hoistingOrder context top) :=
  foldlM_accounts (fun _ id => .bind (hoist_accounts root context top _ id _) fun _ _ => .ok _) []

theorem checkModuleNames_accounts (root : Node) (graph : ClassGraph) (taken : List String)
    (ids : List ClassId) : root.Accounts (Python.checkModuleNames graph taken ids) := by
  induction ids generalizing taken with
  | nil => exact .ok _
  | cons id rest ih =>
    unfold Python.checkModuleNames
    extract_lets name
    split
    · apply Node.Accounts.error
      exact .target _ (noType_of_length (lt_length_append_left (lt_length_append_right (by decide))))
    · exact ih _

/-- The blocks of a module are texts of classes in the order of hoisting. -/
theorem moduleBlocks_accounted (context : Context) (describes : context.graph.Describes root)
    (id : ClassId) : Accounted root (moduleBlocks context id) := by
  unfold moduleBlocks
  apply Accounted.bind (classText_accounted context describes _)
  intro first _
  apply Accounted.bind (.ofExcept (hoistingOrder_accounts root context id))
  intro hoisted _
  apply Accounted.bind (.mapM fun inner _ =>
    .bind (classText_accounted context describes _) fun _ _ => .pure root _)
  intro others _
  apply Accounted.bind (.get root)
  intro needs _
  exact .bind (.ofExcept (checkModuleNames_accounts root _ _ _)) fun _ _ => .pure root _

theorem importLines_accounted (root : Node) (language : TargetLanguage) :
    Accounted root (importLines language) := by
  unfold importLines
  split
  · apply Accounted.bind (.get root)
    intro needs _
    split
    · apply Accounted.bind (requireSymbol_accounted root _ _)
      intro _ _
      exact .bind (.get root) fun _ _ => .pure root _
    · exact .bind (.get root) fun _ _ => .pure root _
  · exact .bind (.get root) fun _ _ => .pure root _

/-- Writing a file fails over the classes in it, or over the names of its module. -/
theorem writeFile_accounted (context : Context) (describes : context.graph.Describes root)
    (id : ClassId) : Accounted root (context.writeFile id) := by
  have body (context : Context) (describes : context.graph.Describes root) :
      Accounted root (context.fileBody id) := by
    unfold Context.fileBody
    split
    · exact .bind (moduleBlocks_accounted context describes id) fun _ _ => .pure root _
    · exact classText_accounted context describes _
  unfold Context.writeFile
  apply Accounted.bind (.set root _)
  intro _ _
  extract_lets inFile
  apply Accounted.bind (body inFile describes)
  intro body _
  exact .bind (importLines_accounted root _) fun _ _ => .pure root _

/-- What the file of a class fails with. -/
theorem fileText_accounts {graph : ClassGraph} (describes : graph.Describes root)
    (settings : Settings) (language : TargetLanguage) (id : ClassId) :
    root.Accounts (fileText graph settings language id) := by
  have written : Accounted root (Context.writeFile { graph, settings, language } id) :=
    writeFile_accounted _ describes id
  intro failure fails
  unfold fileText EStateM.run at fails
  cases run : Context.writeFile { graph, settings, language } id {} with
  | ok text needs =>
    rw [run] at fails
    cases fails
  | error failure' needs =>
    rw [run] at fails
    cases fails
    exact written _ _ _ run

end

end SchemaClasses
