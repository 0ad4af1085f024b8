import SchemaClasses.Proofs.Build.Items
import SchemaClasses.Proofs.Emit.Outline
import SchemaClasses.Proofs.Emit.Statements

/-!
# Constructors of Java and null

A parameter of a constructor in Java may hold null. No guard reads what a parameter holds then: the
type of the parameter may be one without a null, or the guard that the property is required is the
first one and throws an exception, or each guard asks for the presence of the value before it reads
anything of it.

## Main definitions

* `Java.Test.Answers`, `Java.Statement.Ends`: how tests and statements can end when some variables
  hold null.
* `Java.StatementsEnd`: the same for statements one after another.
* `Context.HasUnboxedParameter`: the parameter of a property has a type without a null.

## Main statements

* `Java.passes_of_nullable`: a guard that asks for the presence of the value reads no null.
* `guards_of_buildProperty`: the three kinds of guards of properties.
* `buildProperty_nullSafe`: no guard of a property reads a null.
-/

namespace SchemaClasses

namespace Java

/-! ## How tests end -/

inductive Answer where
  | yes
  | no
  /-- A variable that holds null is read. -/
  | readsNull

/-- The answers to a test when the variables in a list hold null. Nothing is known of others. -/
inductive Test.Answers (absent : List String) (name : String) (test : Test) : Answer → Prop
  | yes (possible : name ∈ absent → test = .isNull) : Answers absent name test .yes
  | no (possible : name ∈ absent → test = .isPresent) : Answers absent name test .no
  | readsNull (isAbsent : name ∈ absent) (reads : test ≠ .isNull ∧ test ≠ .isPresent) :
      Answers absent name test .readsNull

/-- The answers to tests that are made from left to right until one does not hold. -/
inductive TestsAnswer (absent : List String) : List (String × Test) → Answer → Prop
  | nil : TestsAnswer absent [] .yes
  | next {name : String} {test : Test} {tests : List (String × Test)} {answer : Answer}
      (first : test.Answers absent name .yes) (others : TestsAnswer absent tests answer) :
      TestsAnswer absent ((name, test) :: tests) answer
  | stop {name : String} {test : Test} {tests : List (String × Test)} {answer : Answer}
      (first : test.Answers absent name answer) (other : answer ≠ .yes) :
      TestsAnswer absent ((name, test) :: tests) answer

/-! ## How statements end -/

inductive Ending where
  | passes
  /-- The exception of the statement is thrown. -/
  | throws
  /-- A variable that holds null is read. -/
  | readsNull

/-- The endings of a statement when the variables in a list hold null. The variable of a loop holds
an item, whatever the variable of that name has held before. -/
inductive Statement.Ends : List String → Statement → Ending → Prop
  | passes {absent : List String} {tests : List (String × Test)} {message : String}
      {reported? : Option (String × Reading)} (h : TestsAnswer absent tests .no) :
      Ends absent (.reject tests message reported?) .passes
  | throws {absent : List String} {tests : List (String × Test)} {message : String}
      {reported? : Option (String × Reading)} (h : TestsAnswer absent tests .yes) :
      Ends absent (.reject tests message reported?) .throws
  | testsNull {absent : List String} {tests : List (String × Test)} {message : String}
      {reported? : Option (String × Reading)} (h : TestsAnswer absent tests .readsNull) :
      Ends absent (.reject tests message reported?) .readsNull
  | reportsNull {absent : List String} {tests : List (String × Test)} {message name : String}
      {reading : Reading} (h : TestsAnswer absent tests .yes) (isAbsent : name ∈ absent)
      (part : reading ≠ .itself) :
      Ends absent (.reject tests message (some (name, reading))) .readsNull
  | loopsNull {absent : List String} {itemType item sequence : String} {body : Statement}
      (isAbsent : sequence ∈ absent) : Ends absent (.forEach itemType item sequence body) .readsNull
  | loops {absent : List String} {itemType item sequence : String} {body : Statement}
      (isPresent : sequence ∉ absent) : Ends absent (.forEach itemType item sequence body) .passes
  | round {absent : List String} {itemType item sequence : String} {body : Statement}
      {ending : Ending} (isPresent : sequence ∉ absent)
      (h : Ends (absent.filter (· ≠ item)) body ending) :
      Ends absent (.forEach itemType item sequence body) ending
  | skips {absent : List String} {name : String} {body : Statement} :
      Ends absent (.ifPresent name body) .passes
  | enters {absent : List String} {name : String} {body : Statement} {ending : Ending}
      (isPresent : name ∉ absent) (h : Ends absent body ending) :
      Ends absent (.ifPresent name body) ending

inductive StatementsEnd (absent : List String) : List Statement → Ending → Prop
  | nil : StatementsEnd absent [] .passes
  | next {statement : Statement} {statements : List Statement} {ending : Ending}
      (first : statement.Ends absent .passes) (others : StatementsEnd absent statements ending) :
      StatementsEnd absent (statement :: statements) ending
  | stop {statement : Statement} {statements : List Statement} {ending : Ending}
      (first : statement.Ends absent ending) (other : ending ≠ .passes) :
      StatementsEnd absent (statement :: statements) ending

section

variable {absent : List String} {name itemType : String} {guard : Guard}

/-! ## Statements that read no null -/

/-- After the test that a variable is present, nothing is known to be null. -/
theorem answer_of_isPresent {tests : List (String × Test)} {answer : Answer} (mem : name ∈ absent)
    (h : TestsAnswer absent ((name, .isPresent) :: tests) answer) : answer = .no := by
  cases h with
  | next first _ =>
    cases first with
    | yes possible => cases possible mem
  | stop first other =>
    cases first with
    | yes => exact absurd rfl other
    | no => rfl
    | readsNull _ reads => exact absurd rfl reads.2

/-- A variable that holds null is known to be null. -/
theorem answer_of_isNull {answer : Answer} (mem : name ∈ absent)
    (h : TestsAnswer absent [(name, .isNull)] answer) : answer = .yes := by
  cases h with
  | next first others =>
    cases others
    rfl
  | stop first other =>
    cases first with
    | yes => rfl
    | no possible => cases possible mem
    | readsNull _ reads => exact absurd rfl reads.1

/-- A guard on a value that may be null reads nothing of a null. -/
theorem passes_of_nullable (nullable : guard.nullable) {ending : Ending}
    (h : (statementOf guard name itemType).Ends [name] ending) : ending = .passes := by
  have mem := List.mem_singleton_self name
  unfold statementOf at h
  simp only [nullable, if_true] at h
  split at h
  · cases h with
    | skips => rfl
    | enters isPresent _ => exact absurd mem isPresent
  · generalize (readingOf? guard.reported).map _ = reported? at h
    cases h with
    | passes _ => rfl
    | throws h | testsNull h => cases answer_of_isPresent mem h
    | reportsNull h => cases answer_of_isPresent mem h

/-- A guard that a value is required throws an exception if there is none. -/
theorem throws_of_required {constraint : Constraint} (required : constraint.kind = .required)
    (isOf : guard.IsOf constraint) (isOn : guard.IsOn false false) {ending : Ending}
    (h : (statementOf guard name itemType).Ends [name] ending) : ending = .throws := by
  have mem := List.mem_singleton_self name
  have kind := isOf.kind.trans required
  have reported : guard.reported = .nothing := by rw [isOf.reported, required]; rfl
  simp only [statementOf, isOn.element, isOn.nullable, kind, reported, Bool.false_eq_true,
    if_false, testOf, readingOf?, Option.map_none] at h
  cases h with
  | throws _ => rfl
  | passes h | testsNull h => cases answer_of_isNull mem h

/-- Guards on values that may be null read nothing of a null. -/
theorem passes_of_forall_nullable {guards : List Guard}
    (nullable : ∀ guard ∈ guards, guard.nullable) {ending : Ending}
    (h : StatementsEnd [name] (guards.map (statementOf · name itemType)) ending) :
    ending = .passes := by
  induction guards with
  | nil =>
    cases h
    rfl
  | cons first rest ih =>
    obtain ⟨here, others⟩ := List.forall_mem_cons.1 nullable
    cases h with
    | next _ h => exact ih others h
    | stop h other => exact absurd (passes_of_nullable here h) other

end

end Java

/-! ## Guards of a property -/

/-- The parameter of a property, in the constructor in Java, has a type without a null. -/
def Context.HasUnboxedParameter (context : Context) (property : Property) : Prop :=
  ∃ type, (Java.parameterType context property).Gives type ∧ (boxed? type).isSome

def BeginWithRequired (guards : List Guard) : Prop :=
  ∃ first rest, guards = first :: rest ∧ first.IsOf ⟨.required, .null⟩ ∧ first.IsOn false false

namespace Emit

variable {α : Type}

theorem Gives.append_of_filterAuxM {p : α → Emit Bool} {as kept kept' : List α}
    (h : (as.filterAuxM p kept).Gives kept') : ∃ more, kept' = more ++ kept := by
  induction as generalizing kept with
  | nil => exact ⟨[], (Gives.of_pure h).symm⟩
  | cons first rest ih =>
    obtain ⟨keeps, -, h⟩ := Gives.of_bind h
    obtain ⟨more, rfl⟩ := ih h
    cases keeps with
    | true => exact ⟨more ++ [first], by simp⟩
    | false => exact ⟨more, rfl⟩

/-- Of the elements that pass a test the first one is the first of all, unless it fails. -/
theorem Gives.of_filterM_cons {p : α → Emit Bool} {first : α} {rest kept : List α}
    (h : ((first :: rest).filterM p).Gives kept) :
    (p first).Gives false ∨ ∃ others, kept = first :: others := by
  obtain ⟨reversed, collected, result⟩ := Gives.of_bind h
  obtain ⟨keeps, given, collected⟩ := Gives.of_bind collected
  cases keeps with
  | false => exact .inl given
  | true =>
    obtain ⟨more, rfl⟩ := Gives.append_of_filterAuxM collected
    exact .inr ⟨more.reverse, by simp [← result.of_pure]⟩

end Emit

section

variable {builders : Builders} {field : String} {node : Node} {isRequired : Bool} {owner : ClassId}
  {s s' : BuildState} {property : Property} {context : Context} {guards : List Guard}

/-- All guards of a property that may be null say so. -/
theorem nullable_of_guards (nullable : property.nullable) (h : property.guards = .ok guards) :
    ∀ guard ∈ guards, guard.nullable := by
  intro guard mem
  rcases of_mem_guards h guard mem with ⟨isOn, -⟩ | ⟨isOn, -⟩
  · exact isOn.nullable.trans nullable
  · exact isOn.nullable.trans nullable

/-- The guards of a property with the constraint that it is required begin with its guard. -/
theorem beginWithRequired_of_guards (notNull : property.nullable = false)
    (required : lastOfKind? property.constraints .required = some ⟨.required, .null⟩)
    (h : property.guards = .ok guards) : BeginWithRequired guards := by
  obtain ⟨own, hown, h⟩ := Except.bind_eq_ok_iff.1 h
  obtain ⟨first, rest, rfl, isOf, isOn⟩ := guardsOf_of_required required hown
  rw [notNull] at isOn
  split at h
  · cases h
  · obtain ⟨onItems, -, h⟩ := Except.bind_eq_ok_iff.1 h
    cases h
    exact ⟨first, rest ++ onItems, rfl, isOf, isOn⟩
  · cases h
    exact ⟨first, rest, rfl, isOf, isOn⟩

/-- A property that is built may be null, or it has a default, or it has the constraint that it is
required. -/
theorem required_of_buildProperty
    (built : buildProperty builders field node isRequired owner s = .ok property s') :
    property.nullable ∨ property.default?.isSome ∨ property.nullable = false ∧
      lastOfKind? property.constraints .required = some ⟨.required, .null⟩ := by
  obtain ⟨type, keywords, default?, constraints, -, -, collected, rfl⟩ := buildProperty_eq_ok built
  cases orNull : admitsNull node with
  | true => exact .inl rfl
  | false =>
    cases default? with
    | some value => exact .inr (.inl rfl)
    | none =>
      cases isRequired with
      | false => exact .inl rfl
      | true =>
        have distinct := kinds_of_required true collected
        exact .inr (.inr ⟨rfl, lastOfKind?_of_mem distinct List.mem_cons_self⟩)

/-- A guard is left out when the field has a type without a null, and without a default the
parameter has that type, too. -/
theorem hasUnboxedParameter_of_implied {guard : Guard} (java : context.language = .java)
    (noDefault : property.default?.isSome = false)
    (h : (context.impliedByType property guard).Gives true) :
    context.HasUnboxedParameter property := by
  unfold Context.impliedByType at h
  split at h
  · rename_i kotlin _
    rw [java] at kotlin
    cases kotlin
  · obtain ⟨type, given, h⟩ := h.of_bind
    have same : Java.parameterType context property = context.fieldType property := by
      simp [Java.parameterType, Context.fieldType, noDefault]
    exact ⟨type, same ▸ given, h.of_pure⟩
  · cases h.of_pure

/-- The guards of a property that is built are those of a parameter without a null, or the first one
is that the property is required, or each of them asks for the presence of the value first. -/
theorem guards_of_buildProperty
    (built : buildProperty builders field node isRequired owner s = .ok property s')
    (java : context.language = .java) (written : (context.writtenGuards property).Gives guards) :
    context.HasUnboxedParameter property ∨ BeginWithRequired guards ∨
      ∀ guard ∈ guards, guard.nullable := by
  unfold Context.writtenGuards at written
  split at written
  · rw [← written.of_pure]
    exact .inr (.inr (by simp))
  · obtain ⟨all, given, written⟩ := written.of_bind
    obtain ⟨kept, filtered, written⟩ := written.of_bind
    have given := given.of_ofExcept
    cases hasDefault : property.default?.isSome with
    | true =>
      simp only [java, hasDefault, decide_true, Bool.and_self, if_true] at written
      rw [← written.of_pure]
      exact .inr (.inr (by simp))
    | false =>
      simp only [hasDefault, Bool.and_false, Bool.false_eq_true, if_false] at written
      obtain rfl := written.of_pure
      rcases required_of_buildProperty built with nullable | some | ⟨notNull, required⟩
      · refine .inr (.inr fun guard mem => ?_)
        exact nullable_of_guards nullable given guard (filtered.mem_of_filterM guard mem)
      · rw [hasDefault] at some
        cases some
      · obtain ⟨first, rest, rfl, isOf, isOn⟩ := beginWithRequired_of_guards notNull required given
        rcases filtered.of_filterM_cons with dropped | ⟨others, rfl⟩
        · refine .inl ?_
          obtain ⟨implied, given, dropped⟩ := dropped.of_bind
          obtain rfl : implied = true := by simpa using dropped.of_pure
          exact hasUnboxedParameter_of_implied java hasDefault given
        · exact .inr (.inl ⟨first, others, rfl, isOf, isOn⟩)

theorem Java.lines_of_guardLines {guard : Guard} {name itemType : String} {lines : List String}
    (h : (guardLines .java guard name itemType none).Gives lines) :
    lines = (Java.statementOf guard name itemType).lines := by
  obtain ⟨_, -, h⟩ := Emit.Gives.of_bind h
  have written := h.of_ofExcept
  rw [Java.statementLines_eq] at written
  exact (Except.ok.inj written).symm

/-- In the constructor, the lines of a property are the statements of its guards, before the line
that sets the field. -/
theorem Java.statements_of_assignment {lines : List String}
    (h : (Java.assignment context property).Gives lines) : ∃ name itemType guards value,
      fieldName .java property = .ok name ∧ (context.writtenGuards property).Gives guards ∧
      lines = guards.flatMap (fun guard => (Java.statementOf guard name itemType).lines) ++
        ["this." ++ name ++ " = " ++ value ++ ";"] := by
  obtain ⟨name, named, h⟩ := h.of_bind
  obtain ⟨itemType, -, h⟩ := h.of_bind
  obtain ⟨guards, given, h⟩ := h.of_bind
  obtain ⟨parts, written, h⟩ := h.of_bind
  have isText : parts.flatten =
      guards.flatMap fun guard => (Java.statementOf guard name itemType).lines := by
    rw [written.eq_map_of_mapM fun _ _ => Java.lines_of_guardLines, List.flatMap_def]
  refine ⟨name, itemType, guards, ?_⟩
  extract_lets finish at h
  split at h
  · obtain ⟨default, -, h⟩ := h.of_bind
    exact ⟨_, named.of_ofExcept, given, isText ▸ h.of_pure.symm⟩
  · exact ⟨_, named.of_ofExcept, given, isText ▸ h.of_pure.symm⟩

/-- A constructor in Java reads no parameter that holds null. For every guard of a property that is
built, the guard is that the property is required, or the type of the parameter has no null, or a
guard that the property is required comes before, or the lines of the guard are those of a statement
that reads no null. One after another, the lines of all guards read none, unless the type of the
parameter has none. -/
theorem buildProperty_nullSafe
    (built : buildProperty builders field node isRequired owner s = .ok property s')
    (java : context.language = .java) :
    (∀ guards, (context.writtenGuards property).Gives guards →
      ∀ before guard after, guards = before ++ guard :: after →
        guard.kind = .required ∨ context.HasUnboxedParameter property ∨
          (∃ earlier ∈ before, earlier.kind = .required) ∨
          ∀ name itemType lines, (guardLines .java guard name itemType none).Gives lines →
            lines = (Java.statementOf guard name itemType).lines ∧
            ¬(Java.statementOf guard name itemType).Ends [name] .readsNull) ∧
    ∀ lines, (Java.assignment context property).Gives lines → ∃ name statements value,
      fieldName .java property = .ok name ∧
      lines = statements.flatMap Java.Statement.lines ++
        ["this." ++ name ++ " = " ++ value ++ ";"] ∧
      (context.HasUnboxedParameter property ∨
        ¬Java.StatementsEnd [name] statements .readsNull) := by
  constructor
  · intro guards written before guard after split
    rcases guards_of_buildProperty built java written with
      unboxed | ⟨first, rest, begins, isOf, -⟩ | nullable
    · exact .inr (.inl unboxed)
    · cases before with
      | nil =>
        obtain ⟨rfl, rfl⟩ := List.cons.inj (begins.symm.trans split)
        exact .inl isOf.kind
      | cons earlier before =>
        obtain ⟨rfl, -⟩ := List.cons.inj (begins.symm.trans split)
        exact .inr (.inr (.inl ⟨first, List.mem_cons_self, isOf.kind⟩))
    · refine .inr (.inr (.inr fun name itemType lines h => ?_))
      refine ⟨Java.lines_of_guardLines h, fun ends => ?_⟩
      cases Java.passes_of_nullable (nullable guard (by simp [split])) ends
  · intro lines h
    obtain ⟨name, itemType, guards, value, named, written, rfl⟩ := Java.statements_of_assignment h
    refine ⟨name, guards.map (Java.statementOf · name itemType), value, named, ?_, ?_⟩
    · rw [List.flatMap_map]
    · rcases guards_of_buildProperty built java written with
        unboxed | ⟨first, rest, rfl, isOf, isOn⟩ | nullable
      · exact .inl unboxed
      · refine .inr fun ends => ?_
        cases ends with
        | next ends _ => cases Java.throws_of_required rfl isOf isOn ends
        | stop ends => cases Java.throws_of_required rfl isOf isOn ends
      · refine .inr fun ends => ?_
        cases Java.passes_of_forall_nullable nullable ends

def greetingSchema : Node := ⟨"/properties/greeting", .object [
  ("type", .string "string"), ("minLength", .int 1), ("default", .string "Hello")]⟩

/-- A greeting. The parameter may be null, and then the field gets the default. -/
def greeting : Property where
  name := "greeting"
  type := .primitive .string .null
  default? := some (.string "Hello")
  constraints := [⟨.minLength, .int 1⟩]
  path := "/properties/greeting"

def greetingLines : List String := [
  "if (greeting != null && greeting.length() < 1)",
  "    throw new IllegalArgumentException(\"greeting length < minimum 1 - \" + greeting.length());",
  "this.greeting = greeting != null ? greeting : \"Hello\";"]

theorem buildProperty_nullSafe_greeting :
    buildProperty (Source.builders ⟨greetingSchema, .string ""⟩) "greeting" greetingSchema
      false 0 {} = .ok greeting {} ∧
    (Java.assignment ⟨{}, {}, .java, none, none⟩ greeting).Gives greetingLines ∧
    ∃ name statements value, fieldName .java greeting = .ok name ∧
      greetingLines = statements.flatMap Java.Statement.lines ++
        ["this." ++ name ++ " = " ++ value ++ ";"] ∧
      (Context.HasUnboxedParameter ⟨{}, {}, .java, none, none⟩ greeting ∨
        ¬Java.StatementsEnd [name] statements .readsNull) := by
  have built : buildProperty (Source.builders ⟨greetingSchema, .string ""⟩) "greeting"
      greetingSchema false 0 {} = .ok greeting {} := rfl
  have run : (Java.assignment ⟨{}, {}, .java, none, none⟩ greeting).run' {} =
      some greetingLines := by decide +kernel
  have written := Emit.gives_of_run' run
  exact ⟨built, written, (buildProperty_nullSafe built rfl).2 _ written⟩

end

end SchemaClasses
