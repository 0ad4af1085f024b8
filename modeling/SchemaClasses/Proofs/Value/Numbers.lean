import SchemaClasses.Proofs.Document.Nodes
import SchemaClasses.Proofs.Number.Range
import SchemaClasses.Value.Writable

/-!
# Numbers in values

The numbers of a document are short when those that are integers, in whatever form they are given,
have few enough digits to be written. Short numbers in a document are short in all of its nodes.

## Main definitions

* `Value.hasShortNumbers`: the integers in a value can be written.

## Main statements

* `Value.isWritable_of_hasShortNumbers`: a value with short numbers can be written.
* `Node.Within.hasShortNumbers`: the nodes of a document with short numbers have short numbers.
-/

namespace SchemaClasses

namespace Value

mutual

/-- Whether every integer in a value can be written, also one that is a floating-point number. -/
def hasShortNumbers : Value → Bool
  | .int n => isWritableInteger n
  | .float number => number.toInt?.all isWritableInteger
  | .array items => haveShortNumbers items
  | .object members => haveShortNumbersInMembers members
  | _ => true

def haveShortNumbers : List Value → Bool
  | [] => true
  | item :: rest => hasShortNumbers item && haveShortNumbers rest

def haveShortNumbersInMembers : List (String × Value) → Bool
  | [] => true
  | (_, value) :: rest => hasShortNumbers value && haveShortNumbersInMembers rest

end

theorem hasShortNumbers_array (items : List Value) :
    (Value.array items).hasShortNumbers ↔ ∀ item ∈ items, item.hasShortNumbers := by
  have iff : haveShortNumbers items ↔ ∀ item ∈ items, item.hasShortNumbers := by
    induction items with
    | nil => simp [haveShortNumbers]
    | cons item rest ih => simp [haveShortNumbers, ih]
  simpa [hasShortNumbers] using iff

theorem hasShortNumbers_object (members : List (String × Value)) :
    (Value.object members).hasShortNumbers ↔ ∀ member ∈ members, member.2.hasShortNumbers := by
  have iff : haveShortNumbersInMembers members ↔
      ∀ member ∈ members, member.2.hasShortNumbers := by
    induction members with
    | nil => simp [haveShortNumbersInMembers]
    | cons member rest ih => simp [haveShortNumbersInMembers, ih]
  simpa [hasShortNumbers] using iff

mutual

/-- A value with short numbers can be written. -/
theorem isWritable_of_hasShortNumbers (value : Value) (h : value.hasShortNumbers) :
    value.isWritable := by
  cases value with
  | int n => exact h
  | array items => exact areWritable_of_haveShortNumbers items h
  | object members => exact areWritableMembers_of_haveShortNumbers members h
  | _ => rfl

theorem areWritable_of_haveShortNumbers (items : List Value) (h : haveShortNumbers items) :
    areWritable items := by
  cases items with
  | nil => rfl
  | cons item rest =>
    obtain ⟨first, others⟩ := (Bool.and_eq_true _ _).mp h
    simp only [areWritable, Bool.and_eq_true]
    exact ⟨isWritable_of_hasShortNumbers item first, areWritable_of_haveShortNumbers rest others⟩

theorem areWritableMembers_of_haveShortNumbers (members : List (String × Value))
    (h : haveShortNumbersInMembers members) : areWritableMembers members := by
  cases members with
  | nil => rfl
  | cons member rest =>
    obtain ⟨key, value⟩ := member
    obtain ⟨first, others⟩ := (Bool.and_eq_true _ _).mp h
    simp only [areWritableMembers, Bool.and_eq_true]
    exact ⟨isWritable_of_hasShortNumbers value first,
      areWritableMembers_of_haveShortNumbers rest others⟩

end

theorem hasShortNumbers_of_toInt? {number : Binary64} {n : Int}
    (h : (Value.float number).hasShortNumbers) (whole : number.toInt? = some n) :
    isWritableInteger n := by
  simpa [hasShortNumbers, whole] using h

theorem hasShortNumbers_of_mem_members {value : Value} (h : value.hasShortNumbers)
    {member : String × Value} (mem : member ∈ value.members) : member.2.hasShortNumbers := by
  cases value with
  | object members => exact (hasShortNumbers_object members).1 h member mem
  | _ => cases mem

theorem hasShortNumbers_of_mem_items {value : Value} (h : value.hasShortNumbers) {item : Value}
    (mem : item ∈ value.items) : item.hasShortNumbers := by
  cases value with
  | array items => exact (hasShortNumbers_array items).1 h item mem
  | _ => cases mem

/-- A number within the bounds is short. -/
theorem hasShortNumbers_float {number : Binary64} (h : number.IsInRange) :
    (Value.float number).hasShortNumbers := by
  simp only [hasShortNumbers]
  cases whole : number.toInt? with
  | none => rfl
  | some n =>
    rw [Option.all_some]
    exact Binary64.isWritableInteger_of_toInt? h whole

end Value

/-- The nodes of a document with short numbers have short numbers. -/
theorem Node.Within.hasShortNumbers {root node : Node} (short : root.value.hasShortNumbers)
    (h : root.Within node) : node.value.hasShortNumbers := by
  induction h with
  | root => exact short
  | member _ mem ih => exact Value.hasShortNumbers_of_mem_members ih mem
  | item _ found ih => exact Value.hasShortNumbers_of_mem_items ih (List.mem_of_getElem? found)

theorem Node.hasShortNumbers_valueOf {node : Node} (short : node.value.hasShortNumbers)
    (key : String) : (node.valueOf key).hasShortNumbers := by
  unfold valueOf
  cases found : node.value.member? key with
  | none => rfl
  | some value => exact Value.hasShortNumbers_of_mem_members short (mem_of_lookup found)

end SchemaClasses
