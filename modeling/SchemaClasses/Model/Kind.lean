/-!
# Kinds of classes, types and constraints

The closed vocabularies of the class model, with the label of each word.
-/

namespace SchemaClasses

inductive ClassKind where
  /-- Without properties, compared by identity. -/
  | plain
  /-- Compared by the values of its properties. -/
  | data
  /-- The base of alternatives, holding the properties they share. -/
  | openBase
  /-- An alternative, declared inside its base. -/
  | nestedVariant
deriving DecidableEq

def ClassKind.label : ClassKind → String
  | .plain => "plain"
  | .data => "data"
  | .openBase => "open_base"
  | .nestedVariant => "nested_variant"

/-- The types without parts, after the format of a string or an integer has been taken into
account. -/
inductive PrimitiveKind where
  | string
  | integer
  | long
  | number
  | boolean
  | date
  | dateTime
  | time
  | uuid
  | uri
  | any
deriving DecidableEq

namespace PrimitiveKind

def all : List PrimitiveKind :=
  [.string, .integer, .long, .number, .boolean, .date, .dateTime, .time, .uuid, .uri, .any]

def label : PrimitiveKind → String
  | .string => "string"
  | .integer => "integer"
  | .long => "long"
  | .number => "number"
  | .boolean => "boolean"
  | .date => "date"
  | .dateTime => "date-time"
  | .time => "time"
  | .uuid => "uuid"
  | .uri => "uri"
  | .any => "any"

def ofLabel? (label : String) : Option PrimitiveKind := all.find? (·.label = label)

def isNumeric : PrimitiveKind → Bool
  | .integer | .long | .number => true
  | _ => false

end PrimitiveKind

/-- The validation keywords that a generated constructor checks. -/
inductive ConstraintKind where
  | required
  | minimum
  | exclusiveMinimum
  | maximum
  | exclusiveMaximum
  | minLength
  | maxLength
  | pattern
  | minItems
  | maxItems
  | uniqueItems
deriving DecidableEq

namespace ConstraintKind

/-- All constraint kinds, in the order in which a constructor checks them. -/
def precedence : List ConstraintKind :=
  [.required, .minimum, .exclusiveMinimum, .maximum, .exclusiveMaximum, .minLength, .maxLength,
    .pattern, .minItems, .maxItems, .uniqueItems]

def keyword : ConstraintKind → String
  | .required => "required"
  | .minimum => "minimum"
  | .exclusiveMinimum => "exclusiveMinimum"
  | .maximum => "maximum"
  | .exclusiveMaximum => "exclusiveMaximum"
  | .minLength => "minLength"
  | .maxLength => "maxLength"
  | .pattern => "pattern"
  | .minItems => "minItems"
  | .maxItems => "maxItems"
  | .uniqueItems => "uniqueItems"

def ofKeyword? (keyword : String) : Option ConstraintKind :=
  precedence.find? (·.keyword = keyword)

end ConstraintKind

end SchemaClasses
