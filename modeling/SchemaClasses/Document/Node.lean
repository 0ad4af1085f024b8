import SchemaClasses.Document.Pointer
import SchemaClasses.Number.Decimal
import SchemaClasses.Value

/-!
# Nodes of a document

A node is a value of a document together with the pointer it was read from, so that what is built
from it can be reported and found again by its place.

## Main definitions

* `Node`: a value and its place.
* `Node.members`, `Node.items`, `Node.member?`: the nodes below a node.
* `Node.child?`: one step of a pointer.
* `Node.valueOf`: the value of a member, null when it is missing.
-/

namespace SchemaClasses

inductive JsonKind where
  | object
  | array
  | string
  | number
  | boolean
  | null
deriving DecidableEq

def JsonKind.label : JsonKind → String
  | .object => "object"
  | .array => "array"
  | .string => "string"
  | .number => "number"
  | .boolean => "boolean"
  | .null => "null"

def Value.kind : Value → JsonKind
  | .null => .null
  | .bool _ => .boolean
  | .int _ | .float _ => .number
  | .string _ => .string
  | .array _ => .array
  | .object _ => .object

/-- A value of a document and the pointer to it, which is empty for the whole document. -/
structure Node where
  path : String
  value : Value

namespace Node

def ofValue (value : Value) : Node := ⟨"", value⟩

def pointer (node : Node) : String := "#" ++ node.path

def memberPath (node : Node) (key : String) : String :=
  node.path ++ "/" ++ Pointer.escapeSegment key

def itemPath (node : Node) (index : Nat) : String := node.path ++ "/" ++ toString index

def isObject (node : Node) : Bool := node.value.isObject

def isArray (node : Node) : Bool := node.value.isArray

def members (node : Node) : List (String × Node) :=
  node.value.members.map fun (key, value) => (key, ⟨node.memberPath key, value⟩)

def items (node : Node) : List Node :=
  node.value.items.mapIdx fun index value => ⟨node.itemPath index, value⟩

def member? (node : Node) (key : String) : Option Node :=
  (node.value.member? key).map fun value => ⟨node.memberPath key, value⟩

def has (node : Node) (key : String) : Bool := (node.value.member? key).isSome

/-- The value of a member, null when there is none. -/
def valueOf (node : Node) (key : String) : Value := (node.value.member? key).getD .null

/-- One step of a pointer: a member of an object, or an item of an array by its index. Any text of
digits is taken for an index, and must then be a decimal number. -/
def child? (node : Node) (segment : String) : Except Failure (Option Node) :=
  match node.value with
  | .object _ => .ok (node.member? segment)
  | .array items =>
    let digits := segment.toList
    if !digits.isEmpty && digits.all Text.isDigit then do
      let index ← readIndex digits
      return items[index]?.map fun value => ⟨node.itemPath index, value⟩
    else .ok none
  | _ => .ok none

end Node

end SchemaClasses
