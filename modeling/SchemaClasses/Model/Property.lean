import SchemaClasses.Model.Kind
import SchemaClasses.Value

/-!
# Types and properties

The type of a property is built from primitive types, classes, enums, sequences and maps. Classes
are referred to by number, in the order in which they were created.

## Main definitions

* `TypeRef`: a type.
* `Constraint`: a validation keyword with its operand.
* `Property`: a property of a class.
-/

namespace SchemaClasses

abbrev ClassId := Nat

structure Constraint where
  kind : ConstraintKind
  value : Value := .null

/-- A string enum, declared inside the class whose property has it as a type. -/
structure EnumDef where
  name : String
  values : List String
  owner : ClassId
  path : String

/-- The type of a property, an item or a map value. -/
inductive TypeRef where
  /-- A type without parts, with the format it was declared with. -/
  | primitive (kind : PrimitiveKind) (format : Value)
  /-- A generated class. -/
  | ofClass (id : ClassId)
  /-- A sequence, with the constraints on each of its items. -/
  | sequence (item : TypeRef) (itemConstraints : List Constraint)
  /-- A map from strings. -/
  | map (value : TypeRef)
  /-- An enum. -/
  | enum (definition : EnumDef)
  /-- A type that has not been determined. -/
  | undetermined
  /-- No type at all. -/
  | absent

namespace TypeRef

/-- The item type of a sequence or the value type of a map. -/
def item? : TypeRef → Option TypeRef
  | .sequence item _ => some item
  | .map value => some value
  | _ => none

def itemConstraints : TypeRef → List Constraint
  | .sequence _ constraints => constraints
  | _ => []

def isSequence : TypeRef → Bool
  | .sequence .. => true
  | _ => false

def primitive? : TypeRef → Option PrimitiveKind
  | .primitive kind _ => some kind
  | _ => none

end TypeRef

structure Property where
  name : String
  type : TypeRef := .absent
  nullable : Bool := false
  required : Bool := false
  default? : Option Value := none
  constraints : List Constraint := []
  path : String := ""

end SchemaClasses
