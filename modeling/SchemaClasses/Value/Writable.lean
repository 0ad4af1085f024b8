import SchemaClasses.Number.Decimal
import SchemaClasses.Value.Display

/-!
# Values that can be written

A value can be written unless an integer in it has too many digits. Such integers arise from bases
other than ten.

## Main definitions

* `Value.isWritable`: whether a value can be written.
* `Value.writable`: a value that can be written, or the failure.
-/

namespace SchemaClasses.Value

mutual

/-- Whether no integer in a value has too many digits. -/
def isWritable : Value → Bool
  | .int n => isWritableInteger n
  | .array items => areWritable items
  | .object members => areWritableMembers members
  | _ => true

def areWritable : List Value → Bool
  | [] => true
  | item :: rest => isWritable item && areWritable rest

def areWritableMembers : List (String × Value) → Bool
  | [] => true
  | (_, value) :: rest => isWritable value && areWritableMembers rest

end

def writable (value : Value) : Except Failure Value :=
  if value.isWritable then .ok value else .error (.invalidValue .unwritableInteger)

end SchemaClasses.Value
