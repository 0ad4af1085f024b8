import SchemaClasses.Yaml.Tag

/-!
# Dates and times

A date, or a date with a time and perhaps a zone, from its written form. All parts are checked
against the calendar and the clock; a zone is less than a day away from the prime meridian.

## Main definitions

* `Moment`: a date with an optional time.
* `Moment.ofWritten`: a moment from its written parts.
* `Moment.text`: the text of a moment.
-/

namespace SchemaClasses.Yaml

/-- A time of the day, with the offset of its zone in seconds, if it has one. -/
structure Clock where
  hour : Nat
  minute : Nat
  second : Nat
  microsecond : Nat
  offset? : Option Int
deriving DecidableEq

structure Moment where
  year : Nat
  month : Nat
  day : Nat
  clock? : Option Clock
deriving DecidableEq

def isLeapYear (year : Nat) : Bool := year % 4 = 0 && (year % 100 ≠ 0 || year % 400 = 0)

def daysInMonth (year month : Nat) : Nat :=
  if month = 2 then (if isLeapYear year then 29 else 28)
  else if [4, 6, 9, 11].contains month then 30
  else 31

def outOfRange {α : Type} (problem : String) : Except Failure α :=
  .error (.invalidValue (.dateOutOfRange problem))

def decimalNumber (digits : List Char) : Nat :=
  digits.foldl (fun n c => 10 * n + (c.toNat - '0'.toNat)) 0

/-- A number in at least as many digits as given, with zeros before it. -/
def padded (width n : Nat) : String :=
  let digits := (toString n).toList
  String.ofList (List.replicate (width - digits.length) '0' ++ digits)

def secondsInDay : Int := 86400

/-- A span of seconds as whole days and the seconds after them. -/
def spanText (seconds : Int) : String :=
  let days := Int.fdiv seconds secondsInDay
  let rest := Int.fmod seconds secondsInDay
  let parts := (if days = 0 then [] else ["days=" ++ toString days]) ++
    (if rest = 0 then [] else ["seconds=" ++ toString rest])
  "datetime.timedelta(" ++ (if parts.isEmpty then "0" else ", ".intercalate parts) ++ ")"

def offsetOfZone (time : WrittenTime) : Except Failure (Option Int) :=
  match time.zoneSign? with
  | some sign =>
    let span : Int := 3600 * decimalNumber time.zoneHour + 60 * decimalNumber time.zoneMinute
    let offset := if sign = '-' then -span else span
    if -secondsInDay < offset && offset < secondsInDay then .ok (some offset)
    else outOfRange ("offset must be a timedelta strictly between -timedelta(hours=24) and " ++
      "timedelta(hours=24), not " ++ spanText offset ++ ".")
  | none => .ok (if time.atMeridian then some 0 else none)

def microseconds (fraction : List Char) : Nat :=
  let digits := fraction.take 6
  decimalNumber (digits ++ List.replicate (6 - digits.length) '0')

namespace Moment

def dateOf (time : WrittenTime) : Except Failure Moment :=
  let year := decimalNumber time.year
  let month := decimalNumber time.month
  let day := decimalNumber time.day
  if year = 0 then outOfRange "year 0 is out of range"
  else if month = 0 || 12 < month then outOfRange "month must be in 1..12"
  else if day = 0 || daysInMonth year month < day then outOfRange "day is out of range for month"
  else .ok ⟨year, month, day, none⟩

def clockOf (time : WrittenTime) (offset? : Option Int) : Except Failure Clock :=
  let hour := decimalNumber time.hour
  let minute := decimalNumber time.minute
  let second := decimalNumber time.second
  if 23 < hour then outOfRange "hour must be in 0..23"
  else if 59 < minute then outOfRange "minute must be in 0..59"
  else if 59 < second then outOfRange "second must be in 0..59"
  else .ok ⟨hour, minute, second, microseconds time.fraction, offset?⟩

def ofWritten (time : WrittenTime) : Except Failure Moment := do
  if time.hour.isEmpty then dateOf time
  else
    let offset? ← offsetOfZone time
    let date ← dateOf time
    let clock ← clockOf time offset?
    return { date with clock? := some clock }

/-- The count of days before a year, from the first year on. -/
def daysBeforeYear (year : Nat) : Nat :=
  let past := year - 1
  365 * past + past / 4 - past / 100 + past / 400

def dayNumber (moment : Moment) : Nat :=
  let months := (List.range (moment.month - 1)).foldl
    (fun days index => days + daysInMonth moment.year (index + 1)) 0
  daysBeforeYear moment.year + months + moment.day

def instant (moment : Moment) (clock : Clock) (offset : Int) : Int :=
  let seconds : Int := 3600 * clock.hour + 60 * clock.minute + clock.second
  1000000 * (secondsInDay * moment.dayNumber + seconds - offset) + clock.microsecond

/-- Whether two moments are the same. Times in zones are when they are one instant. -/
def isSame (a b : Moment) : Bool :=
  match a.clock?, b.clock? with
  | some s, some t =>
    match s.offset?, t.offset? with
    | some o, some p => a.instant s o = b.instant t p
    | _, _ => a = b
  | _, _ => a = b

end Moment

def offsetText (offset : Int) : String :=
  let minutes := offset.natAbs / 60
  (if offset < 0 then "-" else "+") ++ padded 2 (minutes / 60) ++ ":" ++ padded 2 (minutes % 60)

def Clock.text (clock : Clock) : String :=
  padded 2 clock.hour ++ ":" ++ padded 2 clock.minute ++ ":" ++ padded 2 clock.second ++
    (if clock.microsecond = 0 then "" else "." ++ padded 6 clock.microsecond) ++
    (clock.offset?.map offsetText).getD ""

def Moment.text (moment : Moment) : String :=
  padded 4 moment.year ++ "-" ++ padded 2 moment.month ++ "-" ++ padded 2 moment.day ++
    (moment.clock?.map fun clock => " " ++ clock.text).getD ""

def zoneName (offset : Int) : String :=
  if offset = 0 then "datetime.timezone.utc"
  else "datetime.timezone(" ++ spanText offset ++ ")"

/-- The form of a moment in messages: its kind and its parts, seconds and their fraction only where
they are not zero. -/
def Moment.display (moment : Moment) : String :=
  let date := [toString moment.year, toString moment.month, toString moment.day]
  match moment.clock? with
  | none => "datetime.date(" ++ ", ".intercalate date ++ ")"
  | some clock =>
    let seconds :=
      if clock.microsecond ≠ 0 then [toString clock.second, toString clock.microsecond]
      else if clock.second ≠ 0 then [toString clock.second]
      else []
    let zone := (clock.offset?.map fun offset => ["tzinfo=" ++ zoneName offset]).getD []
    "datetime.datetime(" ++ ", ".intercalate
      (date ++ [toString clock.hour, toString clock.minute] ++ seconds ++ zone) ++ ")"

end SchemaClasses.Yaml
