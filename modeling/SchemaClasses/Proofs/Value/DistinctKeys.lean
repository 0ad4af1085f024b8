import Mathlib.Data.List.Basic
import SchemaClasses.Value

/-!
# Distinct keys

Objects keep their members in a list, in which a key could stand twice. In the values of documents
none does, since the last value of a key replaces the ones before it.

## Main definitions

* `Value.distinctKeys`: no object in a value has a key twice.

## Main statements

* `lookup_setMember`: looking up a key after another one has been set.
* `distinctMembers_spec`: collected members have distinct keys.
-/

namespace SchemaClasses

/-! ## Distinct keys -/

namespace Value

mutual

/-- Whether no object in a value has a key twice. -/
def distinctKeys : Value → Bool
  | .array items => distinctKeysOfItems items
  | .object members => decide (members.map (·.1)).Nodup && distinctKeysOfMembers members
  | _ => true

def distinctKeysOfItems : List Value → Bool
  | [] => true
  | item :: rest => distinctKeys item && distinctKeysOfItems rest

def distinctKeysOfMembers : List (String × Value) → Bool
  | [] => true
  | (_, value) :: rest => distinctKeys value && distinctKeysOfMembers rest

end

theorem distinctKeysOfItems_iff (items : List Value) :
    distinctKeysOfItems items ↔ ∀ item ∈ items, item.distinctKeys := by
  induction items with
  | nil => simp [distinctKeysOfItems]
  | cons item rest ih => simp [distinctKeysOfItems, ih]

theorem distinctKeysOfMembers_iff (members : List (String × Value)) :
    distinctKeysOfMembers members ↔ ∀ member ∈ members, member.2.distinctKeys := by
  induction members with
  | nil => simp [distinctKeysOfMembers]
  | cons member rest ih => simp [distinctKeysOfMembers, ih]

theorem distinctKeys_object (members : List (String × Value)) :
    (Value.object members).distinctKeys ↔
      (members.map (·.1)).Nodup ∧ ∀ member ∈ members, member.2.distinctKeys := by
  simp [distinctKeys, distinctKeysOfMembers_iff]

theorem distinctKeys_array (items : List Value) :
    (Value.array items).distinctKeys ↔ ∀ item ∈ items, item.distinctKeys := by
  simp [distinctKeys, distinctKeysOfItems_iff]

theorem nodup_keys_of_distinctKeys {value : Value} (h : value.distinctKeys) :
    (value.members.map (·.1)).Nodup := by
  cases value with
  | object members => exact ((distinctKeys_object members).1 h).1
  | _ => exact List.nodup_nil

theorem distinctKeys_of_mem_members {value : Value} (h : value.distinctKeys)
    {member : String × Value} (mem : member ∈ value.members) : member.2.distinctKeys := by
  cases value with
  | object members => exact ((distinctKeys_object members).1 h).2 member mem
  | _ => cases mem

theorem distinctKeys_of_mem_items {value : Value} (h : value.distinctKeys) {item : Value}
    (mem : item ∈ value.items) : item.distinctKeys := by
  cases value with
  | array items => exact (distinctKeys_array items).1 h item mem
  | _ => cases mem

end Value

/-! ## Member lists -/

section setMember

variable {α : Type} {key other : String} {value : α} {members : List (String × α)}

theorem lookup_setMember (key other : String) (value : α) (members : List (String × α)) :
    (setMember key value members).lookup other =
      if other = key then some value else members.lookup other := by
  induction members with
  | nil => grind [setMember]
  | cons member rest ih => obtain ⟨k, v⟩ := member; grind [setMember]

theorem mem_keys_setMember :
    other ∈ (setMember key value members).map (·.1) ↔
      other = key ∨ other ∈ members.map (·.1) := by
  induction members with
  | nil => simp [setMember]
  | cons member rest ih => obtain ⟨k, v⟩ := member; grind [setMember]

theorem mem_setMember {member : String × α} (h : member ∈ setMember key value members) :
    member = (key, value) ∨ member ∈ members := by
  induction members with
  | nil => simpa [setMember] using h
  | cons first rest ih => obtain ⟨k, v⟩ := first; grind [setMember]

/-- Setting a member adds no second one under its key. -/
theorem nodup_keys_setMember (h : (members.map (·.1)).Nodup) :
    ((setMember key value members).map (·.1)).Nodup := by
  induction members with
  | nil => simp [setMember]
  | cons member rest ih =>
    obtain ⟨k, v⟩ := member
    rw [List.map_cons, List.nodup_cons] at h
    by_cases hk : k = key
    · simpa [setMember, hk] using h
    · have hnot : k ∉ (setMember key value rest).map (·.1) := by
        rw [mem_keys_setMember]
        exact not_or.2 ⟨hk, h.1⟩
      simp only [setMember, if_neg hk, List.map_cons, List.nodup_cons]
      exact ⟨hnot, ih h.2⟩

/-- A key is found with a value that stands under it. -/
theorem mem_of_lookup (h : members.lookup key = some value) : (key, value) ∈ members := by
  obtain ⟨before, after, rfl, -⟩ := List.lookup_eq_some_iff.1 h
  simp

theorem eq_of_mem_of_nodup {a b : α} (h : (members.map (·.1)).Nodup) (ha : (key, a) ∈ members)
    (hb : (key, b) ∈ members) : a = b := by
  induction members with
  | nil => cases ha
  | cons member rest ih =>
    rw [List.map_cons, List.nodup_cons] at h
    have apart : ∀ {c : α}, (key, c) ∈ rest → member.1 ≠ key := fun hc heq =>
      h.1 (heq ▸ List.mem_map_of_mem hc)
    grind

end setMember

/-- The members that are kept have different keys and are among those given. -/
theorem distinctMembers_spec (members : List (String × Value)) :
    ((distinctMembers members).map (·.1)).Nodup ∧
      ∀ member ∈ distinctMembers members, member ∈ members := by
  have start : (([] : List (String × Value)).map (·.1)).Nodup ∧
      ∀ member ∈ ([] : List (String × Value)), member ∈ members :=
    ⟨List.nodup_nil, fun _ mem => by cases mem⟩
  refine List.foldlRecOn members _ (motive := fun kept : List (String × Value) =>
    (kept.map (·.1)).Nodup ∧ ∀ member ∈ kept, member ∈ members) start ?_
  rintro kept ⟨nodup, known⟩ first mem
  refine ⟨nodup_keys_setMember nodup, fun member hmember => ?_⟩
  rcases mem_setMember hmember with rfl | old
  · exact mem
  · exact known member old

end SchemaClasses
