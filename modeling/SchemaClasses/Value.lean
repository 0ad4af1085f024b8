import SchemaClasses.Number.Binary64

/-!
# Values of documents and settings

Schema documents and settings hold dynamic values. Integers are unbounded and distinct from
floating-point numbers, and the members of an object keep their order.

## Main definitions

* `Value`: a value.
* `Value.member?`, `Value.members`, `Value.items`: the parts of a value.
* `Value.agrees`: whether two values are the same, numbers of any kind being compared as numbers.
* `Value.isTruthy`: whether a setting counts as switched on.
* `setMember`: a member list in which the last value of a key stands at its first place.
-/

namespace SchemaClasses

inductive Value where
  | null
  | bool (value : Bool)
  | int (value : Int)
  | float (value : Binary64)
  | string (value : String)
  | array (items : List Value)
  | object (members : List (String × Value))

/-- Sets the member of a key: in its place if the key is there, else at the end. -/
def setMember {α : Type} (key : String) (value : α) : List (String × α) → List (String × α)
  | [] => [(key, value)]
  | (k, v) :: rest => if k = key then (k, value) :: rest else (k, v) :: setMember key value rest

/-- The members in order of first occurrence, each with the last value given for its key. -/
def distinctMembers {α : Type} (members : List (String × α)) : List (String × α) :=
  members.foldl (fun kept (key, value) => setMember key value kept) []

namespace Value

instance : Inhabited Value := ⟨.null⟩

/-- The members of an object; other values have none. -/
def members : Value → List (String × Value)
  | .object members => members
  | _ => []

def items : Value → List Value
  | .array items => items
  | _ => []

def member? (value : Value) (key : String) : Option Value := value.members.lookup key

def isObject : Value → Bool
  | .object _ => true
  | _ => false

def isArray : Value → Bool
  | .array _ => true
  | _ => false

def isNull : Value → Bool
  | .null => true
  | _ => false

def isString (value : Value) (text : String) : Bool :=
  match value with
  | .string s => s = text
  | _ => false

def string? : Value → Option String
  | .string s => some s
  | _ => none

/-- The integer that a value is equal to, if it is a number or a boolean. -/
def number? : Value → Option Int
  | .bool b => some (if b then 1 else 0)
  | .int n => some n
  | .float x => x.toInt?
  | _ => none

/-- Whether a value counts as switched on: null, `false`, zero and everything empty do not. -/
def isTruthy : Value → Bool
  | .null => false
  | .bool b => b
  | .int n => n != 0
  | .float (.finite _ m _) => m != 0
  | .float _ => true
  | .string s => !s.isEmpty
  | .array items => !items.isEmpty
  | .object members => !members.isEmpty

mutual

def same : Value → Value → Bool
  | .null, .null => true
  | .bool a, .bool b => a = b
  | .int a, .int b => a = b
  | .float a, .float b => a = b
  | .string a, .string b => a = b
  | .array a, .array b => sameItems a b
  | .object a, .object b => sameMembers a b
  | _, _ => false

def sameItems : List Value → List Value → Bool
  | [], [] => true
  | a :: as, b :: bs => same a b && sameItems as bs
  | _, _ => false

def sameMembers : List (String × Value) → List (String × Value) → Bool
  | [], [] => true
  | (k, a) :: as, (l, b) :: bs => k = l && same a b && sameMembers as bs
  | _, _ => false

end

instance : BEq Value := ⟨same⟩

/-- Whether two values are the same when booleans are taken for the numbers zero and one, and an
integer for the floating-point number that is equal to it. -/
def agrees (a b : Value) : Bool :=
  match a.number?, b.number? with
  | some m, some n => m = n
  | _, _ => a == b

mutual

/-- The count of values in a value, itself included. -/
def size : Value → Nat
  | .array items => 1 + sizeItems items
  | .object members => 1 + sizeMembers members
  | _ => 1

def sizeItems : List Value → Nat
  | [] => 0
  | item :: rest => size item + sizeItems rest

def sizeMembers : List (String × Value) → Nat
  | [] => 0
  | (_, value) :: rest => size value + sizeMembers rest

end

end Value

end SchemaClasses
