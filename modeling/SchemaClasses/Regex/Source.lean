import SchemaClasses.Failure
import SchemaClasses.Text.Lines

/-!
# Reading a pattern token by token

A pattern is read one token ahead. A token is a character, or a backslash with the character after
it; a backslash at the end of the pattern is a fault as soon as it would become the next token. The
place of a fault in a pattern of several lines is shown as a line and a column too.

## Main definitions

* `Fault`: why a pattern is no regular expression.
* `Source`: a pattern, the next token, and the place after it.
* `Source.advance`: goes on to the token after the next one.
-/

namespace SchemaClasses.Regex

/-- Why a pattern is no regular expression. -/
inductive Fault where
  /-- A fault of the pattern, with its place if it has one. -/
  | invalid (problem : String) (position : Option Nat)
  /-- A failure of another kind, such as a count that is too large. -/
  | failure (failure : Failure)

def faultMessage (pattern : List Char) (problem : String) (position : Option Nat) : String :=
  match position with
  | none => problem
  | some offset =>
    let shown := problem ++ " at position " ++ toString offset
    if pattern.contains '\n' then
      let (line, column) := Text.lineAndColumn pattern offset
      shown ++ " (line " ++ toString line ++ ", column " ++ toString column ++ ")"
    else shown

structure Source where
  pattern : Array Char
  /-- The place after the next token. -/
  index : Nat
  /-- The next token, none at the end. -/
  next : Option (List Char)

namespace Source

def position (source : Source) : Nat := source.index - (source.next.getD []).length

/-- A fault some characters before the next token. -/
def fault {α : Type} (source : Source) (problem : String) (back : Nat) : Except Fault α :=
  .error (.invalid problem (some (source.position - back)))

def seek (source : Source) (place : Nat) : Except Fault Source :=
  match source.pattern[place]? with
  | none => .ok { source with index := place, next := none }
  | some '\\' =>
    match source.pattern[place + 1]? with
    | some c => .ok { source with index := place + 2, next := some ['\\', c] }
    | none => .error (.invalid "bad escape (end of pattern)" (some (source.pattern.size - 1)))
  | some c => .ok { source with index := place + 1, next := some [c] }

def advance (source : Source) : Except Fault Source := source.seek source.index

def ofPattern (pattern : List Char) : Except Fault Source :=
  seek ⟨pattern.toArray, 0, none⟩ 0

end Source

end SchemaClasses.Regex
