import SchemaClasses.Proofs.Emit.Templates

/-!
# Guards as statements of Java

The lines of a guard in Java are those of a statement. A statement throws an exception if tests on
the values of variables hold one after another, or it makes another statement for every item of a
sequence, or if a variable is not null.

## Main definitions

* `Java.Test`: a test on the value of a variable.
* `Java.Statement`: a statement.
* `Java.Statement.lines`: a statement as it is written.
* `Java.statementOf`: the statement of a guard.

## Main statements

* `Java.statementLines_eq`: the lines of a guard are those of its statement.
-/

namespace SchemaClasses.Java

inductive Reading where
  | itself
  | length
  | size

inductive Test where
  | isNull
  | isPresent
  | compares (reading : Reading) (operator operand : String)
  /-- A pattern is found nowhere in the value. -/
  | mismatches (pattern : String)
  /-- An item occurs twice. -/
  | repeats

inductive Statement where
  /-- Throws an exception if the tests hold, which are made from left to right. -/
  | reject (tests : List (String × Test)) (message : String)
      (reported? : Option (String × Reading))
  | forEach (itemType item sequence : String) (body : Statement)
  | ifPresent (name : String) (body : Statement)

/-! ## Text -/

def Reading.text (name : String) : Reading → String
  | .itself => name
  | .length => name ++ ".length()"
  | .size => name ++ ".size()"

def Test.text (name : String) : Test → String
  | .isNull => name ++ " == null"
  | .isPresent => name ++ " != null"
  | .compares reading operator operand =>
    reading.text name ++ " " ++ operator ++ " " ++ operand
  | .mismatches pattern => "!Pattern.compile(" ++ pattern ++ ").matcher(" ++ name ++ ").find()"
  | .repeats => "new HashSet<>(" ++ name ++ ").size() != " ++ name ++ ".size()"

section

variable {name : String}

@[simp] theorem Reading.text_itself : Reading.itself.text name = name := rfl

@[simp] theorem Reading.text_length : Reading.length.text name = name ++ ".length()" := rfl

@[simp] theorem Reading.text_size : Reading.size.text name = name ++ ".size()" := rfl

@[simp] theorem Test.text_isNull : Test.isNull.text name = name ++ " == null" := rfl

@[simp] theorem Test.text_isPresent : Test.isPresent.text name = name ++ " != null" := rfl

@[simp] theorem Test.text_compares {reading : Reading} {operator operand : String} :
    (Test.compares reading operator operand).text name =
      reading.text name ++ " " ++ operator ++ " " ++ operand := rfl

@[simp] theorem Test.text_mismatches {pattern : String} : (Test.mismatches pattern).text name =
    "!Pattern.compile(" ++ pattern ++ ").matcher(" ++ name ++ ").find()" := rfl

@[simp] theorem Test.text_repeats : Test.repeats.text name =
    "new HashSet<>(" ++ name ++ ").size() != " ++ name ++ ".size()" := rfl

end

def Statement.lines : Statement → List String
  | .reject tests message reported? =>
    let condition := " && ".intercalate (tests.map fun (name, test) => test.text name)
    let actual? := reported?.map fun (name, reading) => reading.text name
    ["if (" ++ condition ++ ")",
      "    throw new IllegalArgumentException(" ++ messageLiteral .java message actual? ++ ");"]
  | .forEach itemType item sequence body =>
    ("for (" ++ itemType ++ " " ++ item ++ " : " ++ sequence ++ ")") :: Text.indent body.lines
  | .ifPresent name body => ("if (" ++ name ++ " != null)") :: Text.indent body.lines

/-! ## Guards -/

def testOf (kind : ConstraintKind) (operand : String) : Test :=
  match kind with
  | .required => .isNull
  | .minimum => .compares .itself "<" operand
  | .exclusiveMinimum => .compares .itself "<=" operand
  | .maximum => .compares .itself ">" operand
  | .exclusiveMaximum => .compares .itself ">=" operand
  | .minLength => .compares .length "<" operand
  | .maxLength => .compares .length ">" operand
  | .pattern => .mismatches operand
  | .minItems => .compares .size "<" operand
  | .maxItems => .compares .size ">" operand
  | .uniqueItems => .repeats

/-- What a message reads of the value that it reports. -/
def readingOf? : Reported → Option Reading
  | .value => some .itself
  | .length => some .length
  | .size => some .size
  | .nothing => none

def statementOf (guard : Guard) (name itemType : String) : Statement :=
  let target := if guard.element then "item" else name
  let test := (target, testOf guard.kind (operandLiteral .java guard))
  let reported? := (readingOf? guard.reported).map fun reading => (target, reading)
  if guard.element then
    let loop := .forEach itemType "item" name (.reject [test] guard.message reported?)
    if guard.nullable then .ifPresent name loop else loop
  else if guard.nullable then .reject [(name, .isPresent), test] guard.message reported?
  else .reject [test] guard.message reported?

/-! ## The lines of a guard -/

section

/-- In Java no condition has an operand in its name. -/
theorem conditionKey_java (guard : Guard) : conditionKey .java guard = guard.kind.keyword := by
  have mem := conditionKey_mem .java guard
  have plain : ∀ key ∈ (conditionTemplates .java).map (·.1), '_' ∉ key.toList := by decide
  unfold conditionKey at mem ⊢
  split
  · rename_i n given
    simp only [given] at mem ⊢
    split
    · rename_i special
      rw [if_pos special] at mem
      exact absurd (by simp) (plain _ mem)
    · rfl
  · rfl

/-- The condition of a guard in Java, as the test that it is read as. -/
theorem guardCondition_java (guard : Guard) (name : String) :
    guardCondition .java guard name none =
      .ok ((testOf guard.kind (operandLiteral .java guard)).text name) := by
  unfold guardCondition
  rw [Option.getD_none, conditionKey_java]
  generalize operandLiteral .java guard = operand
  have line {key text : String} (pieces : List String)
      (filled : filledLine .java key [("value", name), ("operand", operand)] =
        .ok (String.join pieces)) (eq : String.join pieces = text) :
      filledLine .java key [("value", name), ("operand", operand)] = .ok text := eq ▸ filled
  cases guard.kind with
  | required => exact line [name, " == null"] rfl (by simp [testOf])
  | minimum => exact line [name, " < ", operand] rfl (by simp [testOf, String.append_assoc])
  | exclusiveMinimum =>
    exact line [name, " <= ", operand] rfl (by simp [testOf, String.append_assoc])
  | maximum => exact line [name, " > ", operand] rfl (by simp [testOf, String.append_assoc])
  | exclusiveMaximum =>
    exact line [name, " >= ", operand] rfl (by simp [testOf, String.append_assoc])
  | minLength =>
    exact line [name, ".length() < ", operand] rfl (by simp [testOf, String.append_assoc])
  | maxLength =>
    exact line [name, ".length() > ", operand] rfl (by simp [testOf, String.append_assoc])
  | pattern =>
    exact line ["!Pattern.compile(", operand, ").matcher(", name, ").find()"] rfl
      (by simp [testOf, String.append_assoc])
  | minItems => exact line [name, ".size() < ", operand] rfl (by simp [testOf, String.append_assoc])
  | maxItems => exact line [name, ".size() > ", operand] rfl (by simp [testOf, String.append_assoc])
  | uniqueItems =>
    exact line ["new HashSet<>(", name, ").size() != ", name, ".size()"] rfl
      (by simp [testOf, String.append_assoc])

/-- What a guard in Java reports, as the reading of a value. -/
theorem reportedExpression_java (guard : Guard) (name : String) :
    reportedExpression .java guard name =
      .ok ((readingOf? guard.reported).map (·.text name)) := by
  have line {key text : String} (pieces : List String)
      (filled : filledLine .java key [("value", name)] = .ok (String.join pieces))
      (eq : String.join pieces = text) :
      some <$> filledLine .java key [("value", name)] = .ok (some text) := by
    rw [filled, eq]
    rfl
  unfold reportedExpression
  cases guard.reported with
  | value => exact line [name] rfl (by simp)
  | length => exact line [name, ".length()"] rfl (by simp)
  | size => exact line [name, ".size()"] rfl (by simp)
  | nothing => rfl

theorem nullCheck_java (name test : String) :
    filledLine .java "_template.null_check" [("value", name), ("condition", test)] =
      .ok (name ++ " != null && " ++ test) := by
  have filled : filledLine .java "_template.null_check" [("value", name), ("condition", test)] =
      .ok (String.join [name, " != null && ", test]) := rfl
  simp [filled, String.append_assoc]

theorem nullBlock_java (name : String) :
    filledLine .java "_template.null_block" [("value", name)] =
      .ok ("if (" ++ name ++ " != null)") := by
  have filled : filledLine .java "_template.null_block" [("value", name)] =
      .ok (String.join ["if (", name, " != null)"]) := rfl
  simp [filled, String.append_assoc]

theorem loop_java (name itemType : String) :
    filledLine .java "_template.loop" [("value", name), ("item_type", itemType)] =
      .ok ("for (" ++ itemType ++ " " ++ "item" ++ " : " ++ name ++ ")") := by
  have filled : filledLine .java "_template.loop" [("value", name), ("item_type", itemType)] =
      .ok (String.join ["for (", itemType, " item : ", name, ")"]) := rfl
  simp [filled, String.append_assoc]

theorem guard_java (condition message : String) :
    filledBlock .java "_template.guard" [("condition", condition), ("message", message)] =
      .ok ["if (" ++ condition ++ ")",
        "    throw new IllegalArgumentException(" ++ message ++ ");"] := by
  have filled :
      filledBlock .java "_template.guard" [("condition", condition), ("message", message)] =
        .ok [String.join ["if (", condition, ")"],
          String.join ["    throw new IllegalArgumentException(", message, ");"]] := rfl
  simp [filled, String.append_assoc]

/-- The lines of a guard are those of its statement. -/
theorem statementLines_eq (guard : Guard) (name itemType : String) :
    statementLines .java guard name itemType none =
      .ok (statementOf guard name itemType).lines := by
  have hasCheck : hasTemplate .java "_template.null_check" = true := by decide
  unfold statementLines statementOf
  simp only [guardCondition_java, reportedExpression_java, nullCheck_java, nullBlock_java,
    loop_java, guard_java, hasCheck]
  cases guard.element <;> cases guard.nullable <;>
    simp [Statement.lines, bind, Except.bind, pure, Except.pure, Function.comp_def,
      String.append_assoc]

end

end SchemaClasses.Java
