import SchemaClasses.Failure
import SchemaClasses.Value.Display

/-!
# Labels

The words of a closed vocabulary are chosen by their labels, which are texts. A value that is no
label of a vocabulary is refused in the form that it has in messages.

## Main definitions

* `Value.word`: the word that a value is the label of.
-/

namespace SchemaClasses

/-- The word that a value is the label of, in a vocabulary of the given name. -/
def Value.word {α : Type} (value : Value) (ofLabel? : String → Option α) (vocabulary : String) :
    Except Failure α :=
  match value.string?.bind ofLabel? with
  | some word => .ok word
  | none => .error (.invalidValue (.unknownLabel value.display vocabulary))

end SchemaClasses
