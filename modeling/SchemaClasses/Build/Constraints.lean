import SchemaClasses.Build.Schema
import SchemaClasses.Regex.Grammar

/-!
# Constraints of a schema

The validation keywords that apply to values of a type: bounds to numbers, length and pattern to
strings, counts and uniqueness to sequences. The strict bounds may be numbers of their own, or
switches that make the sibling bound strict.

## Main definitions

* `numericConstraints`, `stringConstraints`, `arrayConstraints`: the keywords of each family.
* `constraintsFor`: the keywords that apply to a type.
-/

namespace SchemaClasses

/-- A bound and its strict form, from the values of their keywords: a switch that is on makes the
bound strict, one that is off leaves it as it is. -/
def strictBound (bound strict : Value) : Value × Value :=
  match strict with
  | .bool true => (.null, bound)
  | .bool false => (bound, .null)
  | _ => (bound, strict)

def isNumber : Value → Bool
  | .int _ | .float _ => true
  | _ => false

/-- A bound as a constraint; null is none, and anything else must be a number. -/
def boundConstraint (node : Node) (kind : ConstraintKind) (value : Value) :
    Except Failure (List Constraint) :=
  if value.isNull then .ok []
  else if isNumber value then .ok [⟨kind, value⟩]
  else unsupported node.path (kind.keyword ++ " must be a number")

def numericConstraints (node : Node) : Except Failure (List Constraint) := do
  let (minimum, strictMinimum) :=
    strictBound (node.valueOf "minimum") (node.valueOf "exclusiveMinimum")
  let (maximum, strictMaximum) :=
    strictBound (node.valueOf "maximum") (node.valueOf "exclusiveMaximum")
  let bounds ← [(ConstraintKind.minimum, minimum), (.exclusiveMinimum, strictMinimum),
    (.maximum, maximum), (.exclusiveMaximum, strictMaximum)].mapM fun (kind, value) =>
      boundConstraint node kind value
  return bounds.flatten

def wholeNumber? : Value → Option Int
  | .int n => some n
  | .float x => x.toInt?
  | _ => none

/-- A count as a constraint; null is none, and anything else must be a whole number that is not
negative. -/
def countConstraint (node : Node) (kind : ConstraintKind) : Except Failure (List Constraint) :=
  let value := node.valueOf kind.keyword
  if value.isNull then .ok []
  else match (wholeNumber? value).filter (0 ≤ ·) with
    | some count => .ok [⟨kind, .int count⟩]
    | none => unsupported node.path (kind.keyword ++ " must be a non-negative integer")

def patternConstraint (node : Node) : Except Failure (List Constraint) :=
  match node.valueOf "pattern" with
  | .null => .ok []
  | .string pattern =>
    match Regex.check pattern.toList with
    | .ok () => .ok [⟨.pattern, .string pattern⟩]
    | .error (.failure failure) => .error failure
    | .error (.invalid problem position) =>
      unsupported node.path ("invalid pattern " ++ Text.quote pattern ++ ": " ++
        Regex.faultMessage pattern.toList problem position)
  | _ => unsupported node.path "pattern must be a string"

def stringConstraints (node : Node) : Except Failure (List Constraint) :=
  return (← countConstraint node .minLength) ++ (← countConstraint node .maxLength) ++
    (← patternConstraint node)

def uniqueConstraint (node : Node) : List Constraint :=
  match node.valueOf "uniqueItems" with
  | .bool true => [⟨.uniqueItems, .bool true⟩]
  | _ => []

def arrayConstraints (node : Node) : Except Failure (List Constraint) :=
  return (← countConstraint node .minItems) ++ (← countConstraint node .maxItems) ++
    uniqueConstraint node

/-- The validation keywords of a schema that apply to values of a type. -/
def constraintsFor (node : Node) (type : TypeRef) : Except Failure (List Constraint) :=
  if !node.isObject then .ok []
  else match type with
    | .primitive kind _ =>
      if kind.isNumeric then numericConstraints node
      else if kind = .string then stringConstraints node
      else .ok []
    | .sequence .. => arrayConstraints node
    | _ => .ok []

end SchemaClasses
