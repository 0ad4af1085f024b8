import SchemaClasses.Text.Split

/-!
# Runs of named characters

The names of consecutive characters often begin with the same words. A run keeps those words once,
and the rest of each name in the order of the code points.
-/

namespace SchemaClasses.Text.CharacterName

structure NameRun where
  /-- The code point of the first character. -/
  first : Nat
  /-- What all the names begin with. -/
  lead : String
  /-- How the names go on, in lines, separated by commas within a line. -/
  rests : List String

def NameRun.code? (run : NameRun) (name : List Char) : Option Nat :=
  (List.isPrefixOf? run.lead.toList name).bind fun rest =>
    ((run.rests.flatMap fun line => splitAt ',' line.toList).idxOf? rest).map (run.first + ·)

end SchemaClasses.Text.CharacterName
