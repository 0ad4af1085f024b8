/-!
# Terminal sequences

A terminal takes an escape character, an opening bracket, numbers and a letter for an order to
change its look. Output that is not for a terminal leaves these sequences out.

## Main definitions

* `Text.withoutSequences`: a text without terminal sequences.
-/

namespace SchemaClasses.Text

def escapeMark : Char := '\x1b'

/-- Whether a character may stand between the bracket and the letter of a sequence. -/
def inSequence (c : Char) : Bool := c.isDigit || c = ';' || c = '?'

/-- A text without terminal sequences; `begun` holds the characters of an unfinished sequence, last
one first. -/
def withoutSequencesFrom (begun : List Char) : List Char → List Char
  | [] => begun.reverse
  | c :: rest =>
    if c = escapeMark then begun.reverse ++ withoutSequencesFrom [c] rest
    else match begun with
      | [] => c :: withoutSequencesFrom [] rest
      | [mark] =>
        if c = '[' then withoutSequencesFrom [c, mark] rest
        else mark :: c :: withoutSequencesFrom [] rest
      | _ =>
        if inSequence c then withoutSequencesFrom (c :: begun) rest
        else if c.isAlpha then withoutSequencesFrom [] rest
        else begun.reverse ++ c :: withoutSequencesFrom [] rest

def withoutSequences (text : String) : String :=
  String.ofList (withoutSequencesFrom [] text.toList)

end SchemaClasses.Text
