import SchemaClasses.Build.State
import SchemaClasses.Document.Reference
import SchemaClasses.Emit.Requirements
import SchemaClasses.Output.Target

/-!
# Decidable equality

The comparison of values decides their equality, and with it that of everything that is made from
them: nodes, classes, the states of a build and its results.

## Main statements

* `Value.same_iff`: values are the same when they are equal.
-/

namespace SchemaClasses

namespace Value

mutual

theorem eq_of_same (a b : Value) (h : same a b) : a = b := by
  cases a with
  | array items =>
    cases b with
    | array items' => exact congrArg array (eq_of_sameItems items items' h)
    | _ => cases h
  | object members =>
    cases b with
    | object members' => exact congrArg object (eq_of_sameMembers members members' h)
    | _ => cases h
  | _ => cases b <;> simp_all [same]

theorem eq_of_sameItems (a b : List Value) (h : sameItems a b) : a = b := by
  cases a with
  | nil =>
    cases b with
    | nil => rfl
    | cons => cases h
  | cons item rest =>
    cases b with
    | nil => cases h
    | cons item' rest' =>
      obtain ⟨first, others⟩ := (Bool.and_eq_true _ _).mp h
      rw [eq_of_same item item' first, eq_of_sameItems rest rest' others]

theorem eq_of_sameMembers (a b : List (String × Value)) (h : sameMembers a b) : a = b := by
  cases a with
  | nil =>
    cases b with
    | nil => rfl
    | cons => cases h
  | cons member rest =>
    obtain ⟨key, value⟩ := member
    cases b with
    | nil => cases h
    | cons member' rest' =>
      obtain ⟨key', value'⟩ := member'
      simp only [sameMembers, Bool.and_eq_true, decide_eq_true_eq] at h
      obtain ⟨⟨keys, first⟩, others⟩ := h
      rw [keys, eq_of_same value value' first, eq_of_sameMembers rest rest' others]

end

mutual

theorem same_self (a : Value) : same a a := by
  cases a with
  | array items => exact sameItems_self items
  | object members => exact sameMembers_self members
  | _ => simp [same]

theorem sameItems_self (items : List Value) : sameItems items items := by
  cases items with
  | nil => rfl
  | cons item rest => simp [sameItems, same_self item, sameItems_self rest]

theorem sameMembers_self (members : List (String × Value)) : sameMembers members members := by
  cases members with
  | nil => rfl
  | cons member rest =>
    obtain ⟨key, value⟩ := member
    simp [sameMembers, same_self value, sameMembers_self rest]

end

/-- Values are the same when they are equal. -/
theorem same_iff {a b : Value} : same a b ↔ a = b :=
  ⟨eq_of_same a b, fun eq => eq ▸ same_self a⟩

instance : DecidableEq Value := fun _ _ => decidable_of_iff _ same_iff

end Value

section

variable {ε σ α : Type} [DecidableEq ε] [DecidableEq σ] [DecidableEq α]

instance decidableEqExcept : DecidableEq (Except ε α)
  | .ok a, .ok b => decidable_of_iff (a = b) ⟨congrArg _, Except.ok.inj⟩
  | .error e, .error f => decidable_of_iff (e = f) ⟨congrArg _, Except.error.inj⟩
  | .ok _, .error _ => isFalse nofun
  | .error _, .ok _ => isFalse nofun

instance decidableEqResult : DecidableEq (EStateM.Result ε σ α)
  | .ok a s, .ok b t => decidable_of_iff (a = b ∧ s = t)
    ⟨fun ⟨value, state⟩ => value ▸ state ▸ rfl, fun eq => EStateM.Result.ok.inj eq⟩
  | .error e s, .error f t => decidable_of_iff (e = f ∧ s = t)
    ⟨fun ⟨failure, state⟩ => failure ▸ state ▸ rfl, fun eq => EStateM.Result.error.inj eq⟩
  | .ok _ _, .error _ _ => isFalse nofun
  | .error _ _, .ok _ _ => isFalse nofun

end

deriving instance DecidableEq for Node
deriving instance DecidableEq for Resolved

deriving instance DecidableEq for Constraint
deriving instance DecidableEq for EnumDef
deriving instance DecidableEq for TypeRef
deriving instance DecidableEq for Property
deriving instance DecidableEq for ClassModel
deriving instance DecidableEq for ClassGraph
deriving instance DecidableEq for BuildState
deriving instance DecidableEq for Requirements

deriving instance DecidableEq for Target

end SchemaClasses
