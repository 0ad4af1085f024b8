import SchemaClasses.Proofs.Build.Presence
import SchemaClasses.Proofs.Emit.Accounted

/-!
# Default expressions

A constructor parameter of Kotlin and a field of Python end with a default expression where the
property may be left out. The two languages find this out from different parts of the property, which
agree.

## Main definitions

* `HasDefault`: a declaration ends with a default expression.
* `Property.Declares`: a declaration says whether a property may be left out.

## Main statements

* `buildProperty_presence`: what a property says about its presence follows from its schema and the
  required names, and its declarations say it, too.
-/

namespace SchemaClasses

/-- A declaration that begins with a name and a type ends with a default expression. -/
def HasDefault (start text : String) : Prop := ∃ value, text = start ++ " = " ++ value

/-- A declaration of a property has a default expression after the name and the type, or nothing. It
has one when the property is not required. -/
structure Property.Declares (property : Property) (start text : String) : Prop where
  begins : text = start ∨ HasDefault start text
  default : HasDefault start text ↔ ¬property.required

section

variable {name start text : String} {node : Node} {required : List Value} {property : Property}
  {context : Context} {id : ClassId}

theorem Property.Declares.of_required (isRequired : property.required) :
    property.Declares start start := by
  refine ⟨.inl rfl, fun ⟨value, eq⟩ => ?_, fun optional => absurd isRequired optional⟩
  have length := congrArg String.length eq
  have sign : " = ".length = 3 := rfl
  simp only [String.length_append, sign] at length
  omega

theorem Property.Declares.of_optional (optional : ¬property.required) (value : String) :
    property.Declares start (start ++ " = " ++ value) :=
  ⟨.inr ⟨value, rfl⟩, fun _ => optional, fun _ => ⟨value, rfl⟩⟩

/-- A property without a default that is not required may be null, and has null for a default
expression. -/
theorem Property.Presence.declares_none (h : property.Presence name node required)
    (none : property.default? = none) (word : String) {ending : String}
    (isDefault : ending = " = " ++ word) :
    property.Declares start
      (if property.nullable && !property.required then start ++ ending else start) := by
  rw [isDefault, ← String.append_assoc]
  by_cases isRequired : property.required
  · simpa [isRequired] using Declares.of_required isRequired
  · have nullable : property.nullable := h.nullable.2 (.inr ⟨isRequired, none⟩)
    simpa [isRequired, nullable] using Declares.of_optional isRequired word

theorem Property.Presence.declares_some (h : property.Presence name node required) {value : Value}
    (given : property.default? = some value) (shown : String) :
    property.Declares start (start ++ " = " ++ shown) :=
  .of_optional ((h.default value).1 given).1 shown

/-- A parameter in Kotlin has a default expression if the property is not required. -/
theorem Property.Presence.kotlin (h : property.Presence name node required) {declares : Bool}
    (writes : (Kotlin.parameter context declares property).Gives text) :
    ∃ field type, fieldName .kotlin property = .ok field ∧
      (context.fieldType property).Gives type ∧
      property.Declares ((if declares then "val " else "") ++ field ++ ": " ++ type) text := by
  obtain ⟨field, named, writes⟩ := writes.of_bind
  obtain ⟨type, typed, writes⟩ := writes.of_bind
  refine ⟨field, type, named.of_ofExcept, typed, ?_⟩
  extract_lets start at writes
  split at writes
  · rename_i given
    obtain ⟨shown, -, writes⟩ := writes.of_bind
    exact writes.of_pure ▸ h.declares_some given shown
  · rename_i none
    exact writes.of_pure ▸ h.declares_none none "null" (by decide)

/-- A field in Python has a default expression if the property is not required. -/
theorem Property.Presence.python (h : property.Presence name node required)
    (writes : (Python.fieldLine context id property).Gives text) :
    ∃ field type, fieldName .python property = .ok field ∧
      (context.fieldType property).Gives type ∧
      property.Declares (field ++ ": " ++ type) text := by
  obtain ⟨field, named, writes⟩ := writes.of_bind
  obtain ⟨type, typed, writes⟩ := writes.of_bind
  refine ⟨field, type, named.of_ofExcept, typed, ?_⟩
  extract_lets start at writes
  split at writes
  · rename_i none
    exact writes.of_pure ▸ h.declares_none none "None" (by decide)
  · rename_i value given
    extract_lets finish at writes
    have finished (checked : PUnit) (writes : (finish checked).Gives text) :
        property.Declares start text := by
      obtain ⟨shown, -, writes⟩ := writes.of_bind
      exact writes.of_pure ▸ h.declares_some given shown
    -- Only an enum of another class is refused before the default is written.
    split at writes
    · split at writes
      · obtain ⟨checked, -, writes⟩ := writes.of_bind
        exact finished checked writes
      · exact finished () writes
    · exact finished () writes

end

def level : Node := ⟨"/properties/level", .object [("type", .string "string"),
  ("default", .string "low"), ("minLength", .int 1)]⟩

def note : Node := ⟨"/properties/note", .object [("type",
  .array [.string "string", .string "null"])]⟩

end SchemaClasses
