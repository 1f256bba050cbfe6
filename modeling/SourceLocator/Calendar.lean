import SourceLocator.Text

/-!
Dates of the Gregorian calendar and times on them, with their texts. A time may say how far its clock
is ahead of universal time; two such times are the same if they are at the same instant.
-/

set_option autoImplicit false

namespace SourceLocator

inductive CalendarFault where
  | year (year : Nat)
  | month
  | day
  | hour
  | minute
  | second
  | zone (minutes : Int)
deriving DecidableEq, Repr

structure Date where
  year : Nat
  month : Nat
  day : Nat
deriving DecidableEq, Repr

structure Moment where
  date : Date
  hour : Nat
  minute : Nat
  second : Nat
  microsecond : Nat
  zone : Option Int
deriving DecidableEq, Repr

def paddedDigits (width n : Nat) : Text :=
  let digits := Text.ofNat n
  List.replicate (width - digits.length) '0' ++ digits

namespace Date

def isLeapYear (year : Nat) : Bool := year % 4 == 0 && (year % 100 != 0 || year % 400 == 0)

def daysInMonth (year month : Nat) : Nat :=
  if month = 2 then if isLeapYear year then 29 else 28
  else if [4, 6, 9, 11].contains month then 30
  else 31

-- The date of three numbers, of which the year is checked first and the day last.
def make (year month day : Nat) : Except CalendarFault Date :=
  if year = 0 ∨ 9999 < year then .error (.year year)
  else if month = 0 ∨ 12 < month then .error .month
  else if day = 0 ∨ daysInMonth year month < day then .error .day
  else .ok ⟨year, month, day⟩

def dayNumber (date : Date) : Nat :=
  let before := date.year - 1
  let inYear := (List.range (date.month - 1)).foldl
    (fun days i => days + daysInMonth date.year (i + 1)) date.day
  before * 365 + before / 4 - before / 100 + before / 400 + inYear

def text (date : Date) : Text :=
  paddedDigits 4 date.year ++ '-' :: paddedDigits 2 date.month ++ '-' :: paddedDigits 2 date.day

def numbers (date : Date) : List Nat := [date.year, date.month, date.day]

def display (date : Date) : Text :=
  "datetime.date(".toList ++ Text.join ", " (date.numbers.map Text.ofNat) ++ [')']

end Date

def displaySpan (minutes : Int) : Text :=
  let days := Int.fdiv minutes 1440
  let seconds := Int.fmod minutes 1440 * 60
  let parts :=
    (if days = 0 then [] else ["days=".toList ++ Text.ofInt days]) ++
      (if seconds = 0 then [] else ["seconds=".toList ++ Text.ofInt seconds])
  "datetime.timedelta(".toList ++ (if parts.isEmpty then ['0'] else Text.join ", " parts) ++ [')']

namespace Moment

def zoneLimit : Nat := 1440

-- Whether a zone may be, which is asked before the rest of a time is looked at.
def checkZone : Option Int → Except CalendarFault Unit
  | some minutes => if zoneLimit ≤ minutes.natAbs then .error (.zone minutes) else .ok ()
  | none => .ok ()

def make (date : Date) (hour minute second microsecond : Nat) (zone : Option Int) :
    Except CalendarFault Moment :=
  if 23 < hour then .error .hour
  else if 59 < minute then .error .minute
  else if 59 < second then .error .second
  else .ok ⟨date, hour, minute, second, microsecond, zone⟩

def instant (moment : Moment) (zone : Int) : Int :=
  let minutes : Int := (moment.date.dayNumber * 24 + moment.hour) * 60 + moment.minute - zone
  (minutes * 60 + moment.second) * 1000000 + moment.microsecond

def zoneText (minutes : Int) : Text :=
  let n := minutes.natAbs
  (if minutes < 0 then '-' else '+') :: paddedDigits 2 (n / 60) ++ ':' :: paddedDigits 2 (n % 60)

def text (moment : Moment) : Text :=
  moment.date.text ++ ' ' :: paddedDigits 2 moment.hour ++ ':' :: paddedDigits 2 moment.minute ++
    ':' :: paddedDigits 2 moment.second ++
    (if moment.microsecond = 0 then [] else '.' :: paddedDigits 6 moment.microsecond) ++
    moment.zone.elim [] zoneText

def displayZone (minutes : Int) : Text :=
  if minutes = 0 then "datetime.timezone.utc"
  else "datetime.timezone(".toList ++ displaySpan minutes ++ [')']

-- The numbers of a time in order, without a zero in the last two places.
def numbers (moment : Moment) : List Nat :=
  let base := moment.date.numbers ++ [moment.hour, moment.minute]
  if moment.microsecond != 0 then base ++ [moment.second, moment.microsecond]
  else if moment.second != 0 then base ++ [moment.second]
  else base

def display (moment : Moment) : Text :=
  "datetime.datetime(".toList ++ Text.join ", " (moment.numbers.map Text.ofNat) ++
    moment.zone.elim [] (fun minutes => ", tzinfo=".toList ++ displayZone minutes) ++ [')']

end Moment

def zoneRule : Text :=
  "offset must be a timedelta strictly between -timedelta(hours=24) and timedelta(hours=24)"

def CalendarFault.message : CalendarFault → Text
  | .year n => "year ".toList ++ Text.ofNat n ++ " is out of range".toList
  | .month => "month must be in 1..12"
  | .day => "day is out of range for month"
  | .hour => "hour must be in 0..23"
  | .minute => "minute must be in 0..59"
  | .second => "second must be in 0..59"
  | .zone minutes => zoneRule ++ ", not ".toList ++ displaySpan minutes ++ ['.']

end SourceLocator
