import SchemaClasses.Text.Split
import SchemaClasses.Yaml.Token

/-!
# Tags

The tag of a node says what it stands for. A plain scalar without a tag gets one from its text, by
the forms of numbers, dates and the other constants.

## Main definitions

* `Tag`: what a node stands for.
* `Tag.ofName`: the tag of a full name.
* `Tag.ofPlain`: the tag of a plain scalar.
-/

namespace SchemaClasses.Yaml

/-- What a node stands for. -/
inductive Tag where
  | null
  | bool
  | int
  | float
  | binary
  | timestamp
  | omap
  | pairs
  | set
  | str
  | seq
  | map
  /-- The key under which other mappings are merged into one. -/
  | merge
  /-- The key whose value stands for a whole mapping. -/
  | defaultValue
  /-- Anything else. -/
  | other
deriving DecidableEq

def standardStart : String := "tag:yaml.org,2002:"

def Tag.ofShortName : String → Tag
  | "null" => .null
  | "bool" => .bool
  | "int" => .int
  | "float" => .float
  | "binary" => .binary
  | "timestamp" => .timestamp
  | "omap" => .omap
  | "pairs" => .pairs
  | "set" => .set
  | "str" => .str
  | "seq" => .seq
  | "map" => .map
  | "merge" => .merge
  | "value" => .defaultValue
  | _ => .other

def Tag.ofName (name : String) : Tag :=
  let start := standardStart.toList
  if start.isPrefixOf name.toList then
    .ofShortName (String.ofList (name.toList.drop start.length))
  else .other

def isDigitOrGap (c : Char) : Bool := c.isDigit || c = '_'

def dropSign : List Char → List Char
  | '+' :: rest => rest
  | '-' :: rest => rest
  | text => text

def isSexagesimalDigit : List Char → Bool
  | [c] => c.isDigit
  | [c, d] => '0' ≤ c && c ≤ '5' && d.isDigit
  | _ => false

def isExponentOrEmpty : List Char → Bool
  | [] => true
  | e :: sign :: digits =>
    (e = 'e' || e = 'E') && (sign = '+' || sign = '-') && !digits.isEmpty && digits.all Char.isDigit
  | _ => false

/-- Whether a text is a decimal numeral that begins with a digit: digits, and further digits or
gaps. -/
def isNumeral : List Char → Bool
  | [] => false
  | c :: rest => c.isDigit && rest.all isDigitOrGap

/-- Whether a text without sign is an integer: in base two, eight, ten, sixteen, or in groups of
base sixty. -/
def isUnsignedInt (text : List Char) : Bool :=
  match text with
  | ['0'] => true
  | '0' :: 'b' :: digits => !digits.isEmpty && digits.all fun c => c = '0' || c = '1' || c = '_'
  | '0' :: 'x' :: digits =>
    !digits.isEmpty && digits.all fun c => (Text.hexValue? c).isSome || c = '_'
  | '0' :: digits => digits.all fun c => ('0' ≤ c && c ≤ '7') || c = '_'
  | _ =>
    match Text.splitAt ':' text with
    | first :: others => isNumeral first && others.all isSexagesimalDigit
    | [] => false

/-- Whether a text without sign is a number with a point: in base ten, or in groups of base
sixty. -/
def isUnsignedPointed (text : List Char) : Bool :=
  let whole := text.takeWhile (· ≠ '.')
  match text.drop whole.length with
  | '.' :: fraction =>
    let exponent := fraction.dropWhile isDigitOrGap
    match Text.splitAt ':' whole with
    | [first] => isNumeral first && isExponentOrEmpty exponent
    | first :: others => isNumeral first && others.all isSexagesimalDigit && exponent.isEmpty
    | [] => false
  | _ => false

/-- Whether a text is a floating-point number. A number that begins with its point has no sign. -/
def isFloat (text : List Char) : Bool :=
  let unsigned := dropSign text
  isUnsignedPointed unsigned ||
    [".inf", ".Inf", ".INF"].any (·.toList = unsigned) ||
    [".nan", ".NaN", ".NAN"].any (·.toList = text) ||
    match text with
    | '.' :: c :: rest => c.isDigit && isExponentOrEmpty (rest.dropWhile isDigitOrGap)
    | _ => false

structure WrittenTime where
  year : List Char
  month : List Char
  day : List Char
  hour : List Char := []
  minute : List Char := []
  second : List Char := []
  fraction : List Char := []
  /-- Whether the zone is the one of the prime meridian, written as a letter. -/
  atMeridian : Bool := false
  /-- The sign of the zone, if it is written as an offset. -/
  zoneSign? : Option Char := none
  zoneHour : List Char := []
  zoneMinute : List Char := []

/-- Takes digits from a text, at least and at most as many as given. -/
def takeDigits? (least most : Nat) (text : List Char) : Option (List Char × List Char) :=
  let digits := (text.take most).takeWhile Char.isDigit
  if digits.length < least then none else some (digits, text.drop digits.length)

def takeChar? (c : Char) : List Char → Option (List Char)
  | d :: rest => if c = d then some rest else none
  | [] => none

def readZone? (time : WrittenTime) (text : List Char) : Option WrittenTime :=
  match text.dropWhile fun c => c = ' ' || c = '\t' with
  | [] => if text.isEmpty then some time else none
  | ['Z'] => some { time with atMeridian := true }
  | sign :: rest => do
    guard (sign = '+' || sign = '-')
    let (zoneHour, rest) ← takeDigits? 1 2 rest
    let zoned := { time with zoneSign? := some sign, zoneHour }
    if rest.isEmpty then return zoned
    let (zoneMinute, rest) ← takeDigits? 2 2 (← takeChar? ':' rest)
    guard rest.isEmpty
    return { zoned with zoneMinute }

def readClock? (date : WrittenTime) (text : List Char) : Option WrittenTime := do
  let isGap (c : Char) : Bool := c = ' ' || c = '\t'
  let rest ← match text with
    | c :: rest =>
      if c = 'T' || c = 't' then some rest
      else if isGap c then some (rest.dropWhile isGap)
      else none
    | [] => none
  let (hour, rest) ← takeDigits? 1 2 rest
  let (minute, rest) ← takeDigits? 2 2 (← takeChar? ':' rest)
  let (second, rest) ← takeDigits? 2 2 (← takeChar? ':' rest)
  let time := { date with hour, minute, second }
  match rest with
  | '.' :: rest =>
    let fraction := rest.takeWhile Char.isDigit
    readZone? { time with fraction } (rest.drop fraction.length)
  | _ => readZone? time rest

def WrittenTime.read? (text : List Char) : Option WrittenTime := do
  let (year, rest) ← takeDigits? 4 4 text
  let (month, rest) ← takeDigits? 1 2 (← takeChar? '-' rest)
  let (day, rest) ← takeDigits? 1 2 (← takeChar? '-' rest)
  let date : WrittenTime := { year, month, day }
  if rest.isEmpty then return date else readClock? date rest

/-- Whether a text stands for a date or a time without being said to. A date alone has two digits
for the month and the day. -/
def isTimestamp (text : List Char) : Bool :=
  match WrittenTime.read? text with
  | some time => !time.hour.isEmpty || (time.month.length = 2 && time.day.length = 2)
  | none => false

def booleans : List String :=
  ["yes", "Yes", "YES", "no", "No", "NO", "true", "True", "TRUE", "false", "False", "FALSE",
    "on", "On", "ON", "off", "Off", "OFF"]

def nulls : List String := ["~", "null", "Null", "NULL", ""]

/-- The texts that are signs of the notation, and stand for no data. -/
def indicators : List String := ["!", "&", "*"]

/-- The tag of a plain scalar. One line feed at the end is passed over. -/
def Tag.ofPlain (text : String) : Tag :=
  let chars := Text.dropFinalNewline text.toList
  let isOneOf (texts : List String) : Bool := texts.any (·.toList = chars)
  if isOneOf booleans then .bool
  else if isFloat chars then .float
  else if isUnsignedInt (dropSign chars) then .int
  else if isOneOf ["<<"] then .merge
  else if isOneOf nulls && (text.isEmpty || !chars.isEmpty) then .null
  else if isTimestamp chars then .timestamp
  else if isOneOf ["="] then .defaultValue
  else if isOneOf indicators then .other
  else .str

end SchemaClasses.Yaml
