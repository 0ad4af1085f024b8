import SchemaClasses.Number.Shortest
import SchemaClasses.Text.Escaped
import SchemaClasses.Value

/-!
# Written forms of values

A value has two written forms. In messages, strings are quoted and the constants are capitalised;
as data, strings are escaped and the constants are in lower case. Items are separated by a comma and
a space, and a key from its value by a colon and a space.

## Main definitions

* `Value.display`: the form in messages.
* `Value.plain`: the form in messages, a string standing as itself.
* `Value.encode`: the form as data.
-/

namespace SchemaClasses.Value

mutual

def display : Value → String
  | .null => "None"
  | .bool b => if b then "True" else "False"
  | .int n => toString n
  | .float x => x.text
  | .string s => Text.quote s
  | .array items => "[" ++ ", ".intercalate (displayItems items) ++ "]"
  | .object members => "\x7b" ++ ", ".intercalate (displayMembers members) ++ "\x7d"

def displayItems : List Value → List String
  | [] => []
  | item :: rest => display item :: displayItems rest

def displayMembers : List (String × Value) → List String
  | [] => []
  | (key, value) :: rest => (Text.quote key ++ ": " ++ display value) :: displayMembers rest

end

/-- The form of a value in messages and generated text, a string standing as itself. -/
def plain : Value → String
  | .string s => s
  | value => value.display

mutual

def encode : Value → String
  | .null => "null"
  | .bool b => if b then "true" else "false"
  | .int n => toString n
  | .float x => x.textWith "Infinity" "NaN"
  | .string s => Text.escape s
  | .array items => "[" ++ ", ".intercalate (encodeItems items) ++ "]"
  | .object members => "\x7b" ++ ", ".intercalate (encodeMembers members) ++ "\x7d"

def encodeItems : List Value → List String
  | [] => []
  | item :: rest => encode item :: encodeItems rest

def encodeMembers : List (String × Value) → List String
  | [] => []
  | (key, value) :: rest => (Text.escape key ++ ": " ++ encode value) :: encodeMembers rest

end

end SchemaClasses.Value
