/-!
# Moments in time

Time values are kept as text in the form of RFC 3339. This module reads such a text to a moment on
the UTC time line and writes a moment back.
-/

namespace RecordQuery

/-- A moment: whole seconds since the start of 1970 in UTC, and nanoseconds. From `10 ^ 9`
nanoseconds on the moment lies in a leap second that follows its second. -/
structure Instant where
  second : Int
  nano : Nat
  deriving DecidableEq

namespace Instant

/-- Earlier seconds first, then fewer nanoseconds. -/
def order (a b : Instant) : Ordering :=
  (compare a.second b.second).then (compare a.nano b.nano)

/-! ## Calendar -/

/-- The number of days from the start of 1970 to a date of the Gregorian calendar. Years are
counted from March, so that a leap day ends its year. -/
def daysOfDate (year month day : Int) : Int :=
  let year := if month ≤ 2 then year - 1 else year
  let era := year.fdiv 400
  let yearOfEra := year - era * 400
  let monthFromMarch := (month + 9) % 12
  let dayOfYear := (153 * monthFromMarch + 2) / 5 + day - 1
  let dayOfEra := yearOfEra * 365 + yearOfEra / 4 - yearOfEra / 100 + dayOfYear
  era * 146097 + dayOfEra - 719468

/-- The date that lies a number of days after the start of 1970. -/
def dateOfDays (days : Int) : Int × Int × Int :=
  let days := days + 719468
  let era := days.fdiv 146097
  let dayOfEra := days - era * 146097
  let yearOfEra := (dayOfEra - dayOfEra / 1460 + dayOfEra / 36524 - dayOfEra / 146096) / 365
  let dayOfYear := dayOfEra - (365 * yearOfEra + yearOfEra / 4 - yearOfEra / 100)
  let monthFromMarch := (5 * dayOfYear + 2) / 153
  let day := dayOfYear - (153 * monthFromMarch + 2) / 5 + 1
  let month := if monthFromMarch < 10 then monthFromMarch + 3 else monthFromMarch - 9
  let year := yearOfEra + era * 400
  (if month ≤ 2 then year + 1 else year, month, day)

def isLeapYear (year : Nat) : Bool :=
  year % 4 == 0 && (year % 100 != 0 || year % 400 == 0)

def daysInMonth (year month : Nat) : Nat :=
  match month with
  | 2 => if isLeapYear year then 29 else 28
  | 4 | 6 | 9 | 11 => 30
  | _ => 31

/-! ## Reading -/

/-- Exactly `count` digits. -/
def readDigits (count : Nat) (input : List Char) : Option (Nat × List Char) :=
  let digits := input.take count
  if digits.length == count && digits.all Char.isDigit then
    some (Nat.ofDigitChars 10 digits 0, input.drop count)
  else none

def readChar (c : Char) : List Char → Option (List Char)
  | first :: rest => if first == c then some rest else none
  | [] => none

/-- A fraction of a second in nanoseconds; digits after the ninth are dropped. -/
def readFraction (input : List Char) : Option (Nat × List Char) :=
  match input with
  | '.' :: rest =>
      let digits := rest.takeWhile Char.isDigit
      let kept := digits.take 9
      if digits.isEmpty then none
      else some (Nat.ofDigitChars 10 kept 0 * Nat.pow 10 (9 - kept.length),
        rest.dropWhile Char.isDigit)
  | _ => some (0, input)

/-- The offset from UTC in seconds: `Z`, or a sign with hours and minutes below one day. -/
def readOffset : List Char → Option (Int × List Char)
  | [] => none
  | sign :: rest =>
      if sign == 'Z' || sign == 'z' then some (0, rest)
      else if sign == '+' || sign == '-' || sign == '\u2212' then do
        let (hours, rest) ← readDigits 2 rest
        let rest ← readChar ':' rest
        let (minutes, rest) ← readDigits 2 rest
        guard (hours < 24 && minutes < 60)
        let seconds : Int := (hours * 60 + minutes) * 60
        return (if sign == '+' then seconds else -seconds, rest)
      else none

/-- The moment that a text in the form of RFC 3339 names. A blank may stand for the `T`, and any
minute may have a sixtieth second, which is the leap second after its fifty-ninth. -/
def read? (text : String) : Option Instant := do
  let (year, input) ← readDigits 4 text.toList
  let input ← readChar '-' input
  let (month, input) ← readDigits 2 input
  let input ← readChar '-' input
  let (day, input) ← readDigits 2 input
  let (separator, input) ← input.head?.map (·, input.drop 1)
  guard (separator == 'T' || separator == 't' || separator == ' ')
  let (hour, input) ← readDigits 2 input
  let input ← readChar ':' input
  let (minute, input) ← readDigits 2 input
  let input ← readChar ':' input
  let (second, input) ← readDigits 2 input
  let (nano, input) ← readFraction input
  let (offset, input) ← readOffset input
  guard input.isEmpty
  guard (1 ≤ month && month ≤ 12 && 1 ≤ day && day ≤ daysInMonth year month)
  guard (hour < 24 && minute < 60 && second ≤ 60)
  let (second, nano) := if second == 60 then (59, nano + 1000000000) else (second, nano)
  let clock : Int := (hour * 60 + minute) * 60 + second
  return ⟨daysOfDate year month day * 86400 + clock - offset, nano⟩

/-! ## Writing -/

/-- A natural number with zeros in front up to a width. -/
def padded (width n : Nat) : String :=
  let digits := Nat.toDigits 10 n
  String.ofList (List.replicate (width - digits.length) '0' ++ digits)

/-- A year of four digits; one outside that range has a sign. -/
def yearText (year : Int) : String :=
  if year < 0 then "-" ++ padded 4 year.natAbs
  else if 9999 < year then "+" ++ padded 4 year.natAbs
  else padded 4 year.natAbs

/-- Nanoseconds with three, six or nine digits, as few as are exact. -/
def fractionText (nano : Nat) : String :=
  if nano == 0 then ""
  else if nano % 1000000 == 0 then "." ++ padded 3 (nano / 1000000)
  else if nano % 1000 == 0 then "." ++ padded 6 (nano / 1000)
  else "." ++ padded 9 nano

/-- The moment in UTC, with the offset `+00:00`. -/
def text (moment : Instant) : String :=
  let days := moment.second.fdiv 86400
  let clock := (moment.second - days * 86400).toNat
  let (year, month, day) := dateOfDays days
  let (leap, nano) :=
    if moment.nano < 1000000000 then (0, moment.nano) else (1, moment.nano - 1000000000)
  yearText year ++ "-" ++ padded 2 month.toNat ++ "-" ++ padded 2 day.toNat ++ "T" ++
    padded 2 (clock / 3600) ++ ":" ++ padded 2 (clock / 60 % 60) ++ ":" ++
    padded 2 (clock % 60 + leap) ++ fractionText nano ++ "+00:00"

/-- Whether a text is in the form of RFC 3339. -/
def isText (text : String) : Bool := (read? text).isSome

end Instant

end RecordQuery
