/-
Points in time as text, such as `2024-05-01T12:00:00Z`: a date, a time of day,
and how far the clock is off. Blanks may stand around most parts, a year may
have more than four digits behind a sign, and decimals of a second are read but
do not count. A kubeconfig tells in this way when a token runs out.
-/
import ClusterAudit.Number.Decimal
import ClusterAudit.Text.Blank

namespace ClusterAudit

/-- A point in time, as the seconds since 1970 began. -/
structure Timestamp where
  seconds : Int
  deriving DecidableEq

/-- Why a text is no point in time. -/
inductive TimestampError where
  | tooShort
  | badCharacter
  | outOfRange
  | outOfCalendar
  | surplus
  deriving DecidableEq

namespace TimestampError

def message : TimestampError → String
  | tooShort => "premature end of input"
  | badCharacter => "input contains invalid characters"
  | outOfRange => "input is out of range"
  | outOfCalendar => "no possible date and time matching input"
  | surplus => "trailing input"

end TimestampError

namespace Timestamp

/-! ## The calendar -/

def isLeap (year : Int) : Bool := year % 4 == 0 && (year % 100 != 0 || year % 400 == 0)

def daysIn (year : Int) (month : Nat) : Nat :=
  if month = 2 then if isLeap year then 29 else 28
  else if [4, 6, 9, 11].contains month then 30
  else 31

/-- The days from the first one of 1970 to a day. Years are counted from March
on, so that a leap day is the last of its year. -/
def daysSince1970 (year : Int) (month day : Nat) : Int :=
  let year := if month ≤ 2 then year - 1 else year
  let month := (month + 9) % 12
  365 * year + year / 4 - year / 100 + year / 400 + (153 * month + 2) / 5 + day - 719469

/-- The first and the last year of the calendar. -/
def firstYear : Int := -262143

def lastYear : Int := 262142

def secondsPerDay : Int := 86400

/-- The bounds of points in time. -/
def firstSecond : Int := daysSince1970 firstYear 1 1 * secondsPerDay

def lastSecond : Int := daysSince1970 (lastYear + 1) 1 1 * secondsPerDay - 1

/-! ## Reading -/

/-- Reads from the beginning of a text. -/
abbrev Reading (α : Type) := StateT (List Char) (Except TimestampError) α

def skipBlanks : Reading Unit := modify (·.dropWhile Text.isBlank)

/-- Digits, one at least and `width` at most. -/
def digits (width : Nat) : Reading Nat := do
  let cs ← get
  if cs.isEmpty then throw .tooShort
  let text := (cs.take width).takeWhile Char.isDigit
  if text.isEmpty then throw .badCharacter
  set (cs.drop text.length)
  return Decimal.natValue text

/-- A number of two digits at most, from `low` to `high`. -/
def field (low high : Nat) : Reading Nat := do
  skipBlanks
  let n ← digits 2
  if low ≤ n && n ≤ high then return n else throw .outOfRange

/-- The largest year of either sign that can be read. -/
def maxYear : Int := 0x7FFFFFFF

/-- Four digits at most, or a sign and any number of them. -/
def year : Reading Int := do
  skipBlanks
  let n : Int ← match ← get with
    | '-' :: cs => do
      set cs
      pure (-(← digits cs.length : Int))
    | '+' :: cs => do
      set cs
      pure (← digits cs.length : Int)
    | _ => do pure (← digits 4 : Int)
  if -maxYear - 1 ≤ n && n ≤ maxYear then return n else throw .outOfRange

/-- One of the characters `allowed`. -/
def oneOf (allowed : List Char) : Reading Unit := do
  match ← get with
  | [] => throw .tooShort
  | c :: cs => if allowed.contains c then set cs else throw .badCharacter

/-- A separator, with blanks before it. -/
def separator (c : Char) : Reading Unit := do
  skipBlanks
  oneOf [c]

/-- The decimals of a second, if there are any. -/
def skipDecimals : Reading Unit := do
  if let '.' :: cs ← get then
    set cs
    let _ ← digits 9
    modify (·.dropWhile Char.isDigit)

/-- Two digits, of which the first is not above `most`. -/
def twoDigits (most : Nat) : Reading Nat := do
  match ← get with
  | [] => throw .tooShort
  | [c] => throw (if c.toNat < 0x80 then .tooShort else .badCharacter)
  | a :: b :: cs =>
    if !(a.isDigit && b.isDigit) then throw .badCharacter
    if most < a.toNat - 48 then throw .outOfRange
    set cs
    return Decimal.natValue [a, b]

/-- How far a clock is ahead, in seconds. -/
def offset : Reading Int := do
  skipBlanks
  let cs ← get
  if (cs.take 3).map Char.toUpper == ['U', 'T', 'C'] then
    set (cs.drop 3)
    return 0
  if ((cs.take 1).map Char.toUpper) == ['Z'] then
    set (cs.drop 1)
    return 0
  oneOf ['+', '-', '\u2212']
  let hours ← twoDigits 9
  modify (·.dropWhile fun c => c == ':' || Text.isBlank c)
  let minutes ← twoDigits 5
  let ahead : Int := hours * 3600 + minutes * 60
  return if cs.head? == some '+' then ahead else -ahead

/-- A whole point in time, with nothing but blanks behind it. -/
def reading : Reading Timestamp := do
  let y ← year
  separator '-'
  let month ← field 1 12
  separator '-'
  let day ← field 1 31
  oneOf ['t', 'T', ' ']
  let hour ← field 0 23
  separator ':'
  let minute ← field 0 59
  separator ':'
  let second ← field 0 60
  skipDecimals
  let ahead ← offset
  skipBlanks
  if !(← get).isEmpty then throw .surplus
  if !(firstYear ≤ y && y ≤ lastYear && day ≤ daysIn y month) then throw .outOfRange
  if secondsPerDay ≤ ahead || ahead ≤ -secondsPerDay then throw .outOfRange
  let clock : Int := (hour * 60 + minute) * 60 + (if second = 60 then 59 else second)
  let seconds := daysSince1970 y month day * secondsPerDay + clock - ahead
  if firstSecond ≤ seconds && seconds ≤ lastSecond then return ⟨seconds⟩ else throw .outOfCalendar

def parse (text : String) : Except TimestampError Timestamp := reading.run' text.toList

end Timestamp

end ClusterAudit
