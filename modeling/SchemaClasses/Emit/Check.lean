import SchemaClasses.Emit.Template
import SchemaClasses.Emit.Type
import SchemaClasses.Guard
import SchemaClasses.Text.Lines

/-!
# Guards as they are written

A guard becomes a statement that tests a condition and reports a failure. Where the value may be
null, the condition asks for its presence first, or the statement stands in a block that does; a
guard on the items of a sequence stands in a loop over them.

## Main definitions

* `operandLiteral`: the operand of a guard.
* `conditionKey`: the name of the condition's template.
* `writtenGuards`: the guards of a property that a language writes out.
* `guardLines`: the lines of a guard.
-/

namespace SchemaClasses

/-- The operand of a guard as a literal: a pattern as a text, a number as a threshold. -/
def operandLiteral (language : TargetLanguage) (guard : Guard) : String :=
  match guard.kind, guard.operand with
  | .pattern, operand => dataLiteral language operand
  | _, .null | _, .bool _ => ""
  | _, operand => numberLiteral language operand

/-- The name of the template of a guard's condition: the keyword, or the keyword with the operand
where there is a template of its own for that. -/
def conditionKey (language : TargetLanguage) (guard : Guard) : String :=
  match guard.operand with
  | .int n =>
    let special := guard.kind.keyword ++ "_" ++ toString n
    if hasTemplate language special then special else guard.kind.keyword
  | _ => guard.kind.keyword

/-- The condition of a guard on a value, from the template under the given name or else from its
own. -/
def guardCondition (language : TargetLanguage) (guard : Guard) (value : String)
    (key? : Option String) : Except Failure String :=
  filledLine language (key?.getD (conditionKey language guard))
    [("value", value), ("operand", operandLiteral language guard)]

def reportedExpression (language : TargetLanguage) (guard : Guard) (value : String) :
    Except Failure (Option String) :=
  match guard.reported with
  | .nothing => .ok none
  | reported => some <$> filledLine language ("_actual." ++ reported.label) [("value", value)]

/-- The lines of a guard on a value. `itemType` is the type of the loop variable of a guard on
items. -/
def statementLines (language : TargetLanguage) (guard : Guard) (value itemType : String)
    (key? : Option String) : Except Failure (List String) := do
  let target := if guard.element then "item" else value
  let test ← guardCondition language guard target key?
  let inline := guard.nullable && !guard.element && hasTemplate language "_template.null_check"
  let condition ←
    if inline then
      filledLine language "_template.null_check" [("value", value), ("condition", test)]
    else pure test
  let actual? ← reportedExpression language guard target
  let message := messageLiteral language guard.message actual?
  let statement ←
    filledBlock language "_template.guard" [("condition", condition), ("message", message)]
  let looped ←
    if guard.element then do
      let loop ← filledLine language "_template.loop" [("value", value), ("item_type", itemType)]
      pure (loop :: Text.indent statement)
    else pure statement
  if guard.nullable && !inline then
    let present ← filledLine language "_template.null_block" [("value", value)]
    return present :: Text.indent looped
  else return looped

def guardLines (language : TargetLanguage) (guard : Guard) (value itemType : String)
    (key? : Option String) : Emit (List String) := do
  for name in ((guardImports language).lookup guard.kind.keyword).getD [] do
    Emit.requireImport name
  Emit.ofExcept (statementLines language guard value itemType key?)

def Context.fieldType (context : Context) (property : Property) : Emit String :=
  context.typeName property.nullable property.type

/-- Whether a guard is left out because the type of the field makes the check: a type of Kotlin
without the null mark, or a type of Java that is not one of objects, holds no null. -/
def Context.impliedByType (context : Context) (property : Property) (guard : Guard) : Emit Bool :=
  match context.language, guard.kind with
  | .kotlin, .required => pure true
  | .java, .required => return (boxed? (← context.fieldType property)).isSome
  | _, _ => pure false

/-- The guards of a property that are written out. In Java a property with a default value is set by
a parameter that may be null. -/
def Context.writtenGuards (context : Context) (property : Property) : Emit (List Guard) := do
  if !context.settings.addValidation.isTruthy then return []
  let guards ← Emit.ofExcept property.guards
  let kept ← guards.filterM fun guard => return !(← context.impliedByType property guard)
  if context.language = .java && property.default?.isSome then
    return kept.map fun guard => { guard with nullable := true }
  return kept

/-- Whether the values of a type can be lists or maps, which Python cannot hash. -/
def needsFreezing : TypeRef → Except Failure Bool
  | .sequence .. | .map _ => .ok true
  | .primitive kind _ => .ok (kind = .any)
  | .absent => .error .missingPart
  | _ => .ok false

/-- The type whose values a guard compares with each other: that of the items of the sequence
checked. -/
def comparedType (guard : Guard) (property : Property) : Except Failure TypeRef :=
  let part (type : TypeRef) : Except Failure TypeRef :=
    match type.item? with
    | some item => .ok item
    | none => .error .missingPart
  if guard.element then do part (← part property.type) else part property.type

/-- The template of a condition that is not the guard's own: in Python, items that cannot be hashed
are compared by the helper that makes them so. -/
def freezingKey (guard : Guard) (property : Property) : Emit (Option String) := do
  if guard.kind ≠ .uniqueItems then return none
  let type ← Emit.ofExcept (comparedType guard property)
  if !(← Emit.ofExcept (needsFreezing type)) then return none
  Emit.requireFreezing
  return some "uniqueItems_frozen"

end SchemaClasses
