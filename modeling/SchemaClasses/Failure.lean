import SchemaClasses.Text.Escaped

/-!
# Failures

Everything that can stop the reading of a document, the building of its classes or the writing of
their files, by cause. The wording of a cause is given by `Failure.message`.

## Main definitions

* `InvalidValue`: a value that does not denote what it should.
* `Failure`: the causes.
* `Failure.message`: the wording.
* `Failure.isGeneration`: whether a failure is reported to the user as an error of the schema.
-/

namespace SchemaClasses

inductive InvalidValue where
  /-- A shown value is no label of a vocabulary. -/
  | unknownLabel (shown vocabulary : String)
  | notInteger (text : String) (base : Nat)
  | notFloat (text : String)
  | tooManyDigits (count : Nat)
  /-- An integer has too many digits to be written. -/
  | unwritableInteger
  | codePointOutOfRange
  | dateOutOfRange (problem : String)
  | incompatibleRegexFlags
  /-- A path has a character in it that ends texts for the system. -/
  | nullInPath
  | aborted
deriving DecidableEq

def InvalidValue.message : InvalidValue → String
  | .unknownLabel shown vocabulary => shown ++ " is not a valid " ++ vocabulary
  | .notInteger text base =>
    "invalid literal for int() with base " ++ toString base ++ ": " ++
      String.ofList ((Text.quoted text.toList).take 200)
  | .notFloat text => "could not convert string to float: " ++ Text.quote text
  | .tooManyDigits count =>
    "Exceeds the limit (4300 digits) for integer string conversion: value has " ++
      toString count ++ " digits; use sys.set_int_max_str_digits() to increase the limit"
  | .unwritableInteger =>
    "Exceeds the limit (4300 digits) for integer string conversion; use " ++
      "sys.set_int_max_str_digits() to increase the limit"
  | .codePointOutOfRange => "chr() arg not in range(0x110000)"
  | .dateOutOfRange problem => problem
  | .incompatibleRegexFlags => "ASCII and UNICODE flags are incompatible"
  | .nullInPath => "embedded null byte"
  | .aborted => "aborted"

/-- A reason why nothing could be read, built or written. -/
inductive Failure where
  /-- A reference or a container pointer designates no node. -/
  | unresolvedReference (pointer reason : String)
  /-- A cycle of references has no recursive class to represent it. -/
  | cyclicReference (pointer reason : String)
  /-- A schema at a pointer cannot be made a class or a type. -/
  | unsupportedSchema (pointer construct : String)
  /-- A class or a type cannot be written in a language. -/
  | unsupportedTarget (language construct : String)
  /-- A text is no JSON. -/
  | malformedJson (message : String)
  /-- A text is no YAML, or holds more than plain data. -/
  | malformedYaml
  /-- A value does not denote what it should. -/
  | invalidValue (problem : InvalidValue)
  /-- A key is missing where one is required. -/
  | missingKey (message : String)
  /-- A value has a type that the operation does not take. -/
  | wrongType
  /-- A value has no such part. -/
  | missingPart
  /-- A number is too large for its representation. -/
  | numberTooLarge
  /-- A regular expression looks behind over more characters than a matcher can go back. -/
  | patternOutOfReach
  /-- An empty text stands where a number should. -/
  | emptyNumber
  /-- No reference is in progress that could be left. -/
  | nothingEntered
  /-- The bytes of a file are no UTF-8. -/
  | malformedUtf8
  /-- A directory stands where a file should. -/
  | isDirectory
  /-- A file stands where a directory should be made. -/
  | fileExists
  /-- A path leads through a file. -/
  | notDirectory
  /-- A path leads to nothing. -/
  | notFound
  /-- A path is too long to be made, or ends where no file can be put. -/
  | unusablePath
deriving DecidableEq

namespace Failure

def withReason (message reason : String) : String :=
  if reason.isEmpty then message else message ++ " (" ++ reason ++ ")"

/-- The wording of a failure; causes that are shown by their kind alone have none. -/
def message : Failure → String
  | .unresolvedReference pointer reason => withReason ("Unresolved reference: " ++ pointer) reason
  | .cyclicReference pointer reason => withReason ("Cyclic reference: " ++ pointer) reason
  | .unsupportedSchema pointer construct =>
    "Unsupported schema construct at " ++ (if pointer.isEmpty then "#" else pointer) ++ ": " ++
      construct
  | .unsupportedTarget language construct => "Cannot render for " ++ language ++ ": " ++ construct
  | .malformedJson message => message
  | .invalidValue problem => problem.message
  | .missingKey message => message
  | _ => ""

/-- Whether a failure concerns the schema or the target language, and is therefore reported to the
user by its message. -/
def isGeneration : Failure → Bool
  | .unresolvedReference .. | .cyclicReference .. | .unsupportedSchema .. | .unsupportedTarget .. =>
    true
  | _ => false

end Failure

end SchemaClasses
