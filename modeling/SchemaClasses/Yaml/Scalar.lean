import SchemaClasses.Number.Decimal
import SchemaClasses.Text.LowerCase
import SchemaClasses.Value.Display
import SchemaClasses.Yaml.Bytes
import SchemaClasses.Yaml.Time

/-!
# Scalars

The values that scalars stand for by their tags. As keys, numbers and booleans that are equal are
the same, and so are times at one instant.

## Main definitions

* `Scalar`: a value without parts.
* `Scalar.read`: the value of a text with a tag.
* `Scalar.sameKey`: whether two values are the same key.
* `Scalar.text`, `Scalar.value`: a value as the text of a key, and as a value of a document.
-/

namespace SchemaClasses.Yaml

inductive Scalar where
  | null
  | bool (value : Bool)
  | int (value : Int)
  /-- A number other than `nan`. -/
  | float (value : Binary64)
  /-- The floating-point value that is no number. There is one that is written by its name; any
  other is a value of its own, told by the place of its node. -/
  | nan (place? : Option Nat)
  | string (text : String)
  | bytes (bytes : List Nat)
  | moment (moment : Moment)

def withoutGaps (text : String) : List Char := text.toList.filter (· ≠ '_')

/-- The value of the digits of a number in base sixty, the last one first. -/
def sexagesimal : List Int → Int
  | [] => 0
  | digit :: rest => digit + 60 * sexagesimal rest

def readUnsignedInt (text : List Char) : Except Failure Int :=
  match text with
  | [] => .error .emptyNumber
  | ['0'] => .ok 0
  | '0' :: 'b' :: digits => readInteger 2 digits
  | '0' :: 'x' :: digits => readInteger 16 digits
  | '0' :: _ => readInteger 8 text
  | _ =>
    if text.contains ':' then do
      let digits ← (Text.splitAt ':' text).mapM (readInteger 10)
      return sexagesimal digits.reverse
    else readInteger 10 text

def readInt (text : String) : Except Failure Int := do
  let chars := withoutGaps text
  if chars.isEmpty then .error .emptyNumber
  else
    let n ← readUnsignedInt (dropSign chars)
    return if chars.head? = some '-' then -n else n

/-- The sum of the parts of a floating-point number in base sixty, the last part first. Each part is
rounded after it has been multiplied, and the sum after each part. -/
def sumSexagesimal (sum : Binary64) (base : Nat) : List Binary64 → Except Failure Binary64
  | [] => .ok sum
  | digit :: rest =>
    match Binary64.ofInt? base with
    | some factor => sumSexagesimal (sum.add (digit.mul factor)) (base * 60) rest
    | none => .error .numberTooLarge

def readUnsignedFloat (text : List Char) : Except Failure Binary64 :=
  if text = ".inf".toList then .ok (.infinite false)
  else if text = ".nan".toList then .ok .nan
  else if text.contains ':' then do
    let parts ← (Text.splitAt ':' text).mapM readFloat
    sumSexagesimal (Binary64.zero false) 1 parts.reverse
  else readFloat text

def readSignedFloat (text : String) (place : Nat) : Except Failure Scalar := do
  let chars := Text.lowerCase (withoutGaps text)
  if chars.isEmpty then .error .emptyNumber
  else
    let unsigned := dropSign chars
    let x ← readUnsignedFloat unsigned
    if x = .nan then return .nan (if unsigned = ".nan".toList then none else some place)
    else return .float (if chars.head? = some '-' then x.neg else x)

def readBool (text : String) : Except Failure Bool :=
  let word := String.ofList (Text.lowerCase text.toList)
  if ["yes", "true", "on"].contains word then .ok true
  else if ["no", "false", "off"].contains word then .ok false
  else .error (.missingKey word)

def readMoment (text : String) : Except Failure Moment :=
  match WrittenTime.read? (Text.dropFinalNewline text.toList) with
  | some time => Moment.ofWritten time
  | none => .error .missingPart

def readBytes (text : String) : Except Failure (List Nat) :=
  if text.toList.any (128 ≤ ·.toNat) then malformed
  else match readBase64 text.toList with
    | some bytes => .ok bytes
    | none => malformed

namespace Scalar

/-- The value of the text of a node at a place. Its tag must be one of those of scalars. -/
def read (tag : Tag) (text : String) (place : Nat) : Except Failure Scalar :=
  match tag with
  | .null => .ok .null
  | .bool => .bool <$> readBool text
  | .int => .int <$> readInt text
  | .float => readSignedFloat text place
  | .binary => .bytes <$> readBytes text
  | .timestamp => .moment <$> readMoment text
  | .str => .ok (.string text)
  | _ => malformed

/-- The integer that a value is equal to, if it is a number or a boolean. -/
def number? : Scalar → Option Int
  | .bool b => some (if b then 1 else 0)
  | .int n => some n
  | .float x => x.toInt?
  | _ => none

def sameKey (a b : Scalar) : Bool :=
  match a.number?, b.number? with
  | some m, some n => m = n
  | none, none =>
    match a, b with
    | .null, .null => true
    | .float x, .float y => x = y
    | .nan place, .nan other => place = other
    | .string s, .string t => s = t
    | .bytes s, .bytes t => s = t
    | .moment s, .moment t => s.isSame t
    | _, _ => false
  | _, _ => false

def text : Scalar → Except Failure String
  | .null => .ok "None"
  | .bool b => .ok (Value.plain (.bool b))
  | .int n => writeInteger n
  | .float x => .ok x.text
  | .nan _ => .ok Binary64.nan.text
  | .string s => .ok s
  | .bytes b => .ok (quoteBytes b)
  | .moment m => .ok m.text

def display : Scalar → Except Failure String
  | .string s => .ok (Text.quote s)
  | .moment m => .ok m.display
  | scalar => scalar.text

/-- A value as a value of a document: dates, times and bytes become texts. -/
def value : Scalar → Except Failure Value
  | .null => .ok .null
  | .bool b => .ok (.bool b)
  | .int n => .ok (.int n)
  | .float x => .ok (.float x)
  | .nan _ => .ok (.float .nan)
  | scalar => .string <$> scalar.text

end Scalar

end SchemaClasses.Yaml
