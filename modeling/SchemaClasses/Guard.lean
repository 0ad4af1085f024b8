import SchemaClasses.Failure
import SchemaClasses.Model.Property
import SchemaClasses.Value.Writable

/-!
# Guards

A guard is a check that the constructor of a generated class makes on a property, said without
regard to the language that the class is written in. Every constraint of a property gives one.

## Main definitions

* `Guard`: a check.
* `guardMessage`: the fixed part of the message of a failed check.
* `guardsOf`: the guards of a list of constraints.
* `Property.guards`: the guards of a property.
-/

namespace SchemaClasses

inductive Reported where
  | value
  | length
  | size
  | nothing
deriving DecidableEq

def Reported.label : Reported → String
  | .value => "value"
  | .length => "length"
  | .size => "size"
  | .nothing => "none"

/-- A check of a constructor. -/
structure Guard where
  kind : ConstraintKind
  /-- The name of the property. -/
  field : String
  /-- The threshold, or the pattern. -/
  operand : Value
  message : String
  reported : Reported
  /-- Whether the property may be null; the check is then made on values that are present. -/
  nullable : Bool
  /-- Whether the check is made on every item of a sequence. -/
  element : Bool

/-- An operand as it stands in a message: a text as it is, anything else as data. -/
def operandText : Value → String
  | .string text => text
  | value => value.encode

def ConstraintKind.reported : ConstraintKind → Reported
  | .required | .uniqueItems => .nothing
  | .minLength | .maxLength => .length
  | .minItems | .maxItems => .size
  | _ => .value

/-- The fixed part of the message of a failed check on a value of the given name. -/
def guardMessage (kind : ConstraintKind) (name operand : String) : String :=
  match kind with
  | .required => "Must not be null - " ++ name
  | .minimum => name ++ " < minimum " ++ operand
  | .exclusiveMinimum => name ++ " <= exclusiveMinimum " ++ operand
  | .maximum => name ++ " > maximum " ++ operand
  | .exclusiveMaximum => name ++ " >= exclusiveMaximum " ++ operand
  | .minLength => name ++ " length < minimum " ++ operand
  | .maxLength => name ++ " length > maximum " ++ operand
  | .pattern => name ++ " does not match pattern " ++ operand
  | .minItems => name ++ " size < minimum " ++ operand
  | .maxItems => name ++ " size > maximum " ++ operand
  | .uniqueItems => name ++ " items not unique"

/-- The guard of a constraint. `name` is what the message calls the value. -/
def Constraint.guard (constraint : Constraint) (field name : String) (nullable element : Bool) :
    Except Failure Guard := do
  let operand ← constraint.value.writable
  return {
    kind := constraint.kind
    field, operand
    message := guardMessage constraint.kind name (operandText operand)
    reported := constraint.kind.reported
    nullable, element }

def lastOfKind? (constraints : List Constraint) (kind : ConstraintKind) : Option Constraint :=
  constraints.reverse.find? (·.kind = kind)

/-- The guards of a list of constraints, one for each kind in the list, in order of precedence. -/
def guardsOf (field name : String) (constraints : List Constraint) (nullable element : Bool) :
    Except Failure (List Guard) :=
  (ConstraintKind.precedence.filterMap (lastOfKind? constraints)).mapM
    (·.guard field name nullable element)

/-- The guards of a property: those on the value itself, and then those on the items of a
sequence. -/
def Property.guards (property : Property) : Except Failure (List Guard) := do
  let own ← guardsOf property.name property.name property.constraints property.nullable false
  match property.type with
  | .sequence .absent _ => .error .missingPart
  | .sequence _ constraints =>
    let itemName := property.name ++ " item"
    return own ++ (← guardsOf property.name itemName constraints property.nullable true)
  | _ => return own

end SchemaClasses
