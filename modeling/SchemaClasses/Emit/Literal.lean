import SchemaClasses.Emit.Language
import SchemaClasses.Names.Identifier
import SchemaClasses.Value.Display

/-!
# Literals

Texts, numbers and messages as they are written in the source text of a language.

## Main definitions

* `dataLiteral`: a text, or any other value, as a literal.
* `stringLiteral`: a text as a literal.
* `numberLiteral`: a threshold as a literal.
* `messageLiteral`: the message of a failed check, with the value that failed.
-/

namespace SchemaClasses

/-- Puts a backslash before every dollar sign, which would begin a template in Kotlin. -/
def escapeDollars (text : List Char) : List Char :=
  text.flatMap fun c => if c = '$' then ['\\', '$'] else [c]

/-- Doubles every brace, which would delimit a replacement field in Python. -/
def doubleBraces (text : List Char) : List Char :=
  text.flatMap fun c => if c = '\x7b' || c = '\x7d' then [c, c] else [c]

/-- A text in its written form as data, made fit for a language. -/
def fitLiteral (language : TargetLanguage) (written : List Char) : List Char :=
  if language = .kotlin then escapeDollars written else written

def dataLiteral (language : TargetLanguage) (value : Value) : String :=
  String.ofList (fitLiteral language value.encode.toList)

def stringLiteralChars (language : TargetLanguage) (text : List Char) : List Char :=
  fitLiteral language (Text.escaped text)

def stringLiteral (language : TargetLanguage) (text : String) : String :=
  String.ofList (stringLiteralChars language text.toList)

def fitsInt32 (n : Int) : Bool := -2147483648 ≤ n && n ≤ 2147483647

/-- A threshold as a literal; Java marks an integer beyond 32 bits as a long one. -/
def numberLiteral (language : TargetLanguage) (value : Value) : String :=
  match language, value with
  | .java, .int n => if fitsInt32 n then toString n else toString n ++ "L"
  | _, value => value.display

/-- The message of a failed check as an expression. `actual` is an expression of what the check
reports about the value, which stands after the fixed part of the message and a dash. -/
def messageLiteral (language : TargetLanguage) (message : String) (actual? : Option String) :
    String :=
  match actual? with
  | none => stringLiteral language message
  | some actual =>
    let fixed := stringLiteralChars language (message.toList ++ [' ', '-', ' '])
    match language with
    | .kotlin =>
      let template := if isIdentifier actual then "$" ++ actual else "$\x7b" ++ actual ++ "\x7d"
      String.ofList fixed.dropLast ++ template ++ "\""
    | .java => String.ofList fixed ++ " + " ++ actual
    | .python =>
      "f" ++ String.ofList (doubleBraces fixed).dropLast ++ "\x7b" ++ actual ++ "\x7d\""

end SchemaClasses
