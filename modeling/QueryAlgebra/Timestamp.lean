import QueryAlgebra.Text.Blank
import QueryAlgebra.Text.Numeral

/-!
Dates of the Gregorian calendar, extended to all years from -262143 to 262142, and times of day with
nanoseconds. A leap second is a second with a whole second more in its nanoseconds, and is written as
the second after it: second 60, if it ends a minute. Any second may be one, although a time that is
put together from its parts has them at the end of a minute only.
-/

namespace QueryAlgebra

def isLeapYear (year : Int) : Bool :=
  year % 4 = 0 && (year % 100 ≠ 0 || year % 400 = 0)

def daysInMonth (year : Int) (month : Nat) : Nat :=
  if month = 2 then if isLeapYear year then 29 else 28
  else if month = 4 ∨ month = 6 ∨ month = 9 ∨ month = 11 then 30
  else 31

structure CalendarDate where
  year : Int
  month : Nat
  day : Nat
  year_range : -262143 ≤ year ∧ year ≤ 262142
  month_range : 1 ≤ month ∧ month ≤ 12
  day_range : 1 ≤ day ∧ day ≤ daysInMonth year month
  deriving DecidableEq, Repr

structure ClockTime where
  hour : Nat
  minute : Nat
  second : Nat
  nanosecond : Nat
  hour_lt : hour < 24
  minute_lt : minute < 60
  second_lt : second < 60
  nanosecond_lt : nanosecond < 2 * 10 ^ 9
  deriving DecidableEq, Repr

structure Timestamp where
  date : CalendarDate
  time : ClockTime
  deriving DecidableEq, Repr

namespace CalendarDate

def ofParts? (year : Int) (month day : Nat) : Option CalendarDate :=
  if valid : (-262143 ≤ year ∧ year ≤ 262142) ∧ (1 ≤ month ∧ month ≤ 12) ∧
      (1 ≤ day ∧ day ≤ daysInMonth year month) then
    some ⟨year, month, day, valid.1, valid.2.1, valid.2.2⟩
  else none

/-- A year has four digits or more, and a sign unless it has four and is not negative. -/
def yearText (year : Int) : List Char :=
  if 0 ≤ year ∧ year ≤ 9999 then paddedDigits 4 year.natAbs
  else (if year < 0 then '-' else '+') :: paddedDigits 4 year.natAbs

def text (date : CalendarDate) : List Char :=
  yearText date.year ++ '-' :: paddedDigits 2 date.month ++ '-' :: paddedDigits 2 date.day

end CalendarDate

namespace ClockTime

def ofParts? (hour minute second nanosecond : Nat) : Option ClockTime :=
  if valid : (hour < 24 ∧ minute < 60 ∧ second < 60 ∧ nanosecond < 2 * 10 ^ 9) ∧
      (nanosecond < 10 ^ 9 ∨ second = 59) then
    some ⟨hour, minute, second, nanosecond, valid.1.1, valid.1.2.1, valid.1.2.2.1, valid.1.2.2.2⟩
  else none

/-- A part of a second with the fewest of 3, 6 and 9 digits that is exact, and none at all for a
whole second. -/
def fractionText (nanosecond : Nat) : List Char :=
  if nanosecond = 0 then []
  else if nanosecond % 10 ^ 6 = 0 then '.' :: paddedDigits 3 (nanosecond / 10 ^ 6)
  else if nanosecond % 10 ^ 3 = 0 then '.' :: paddedDigits 6 (nanosecond / 10 ^ 3)
  else '.' :: paddedDigits 9 nanosecond

def text (time : ClockTime) : List Char :=
  paddedDigits 2 time.hour ++ ':' :: paddedDigits 2 time.minute ++
    ':' :: paddedDigits 2 (time.second + time.nanosecond / 10 ^ 9) ++
    fractionText (time.nanosecond % 10 ^ 9)

end ClockTime

namespace Timestamp

def ofParts? (year : Int) (month day hour minute second nanosecond : Nat) : Option Timestamp := do
  let date ← CalendarDate.ofParts? year month day
  let time ← ClockTime.ofParts? hour minute second nanosecond
  pure ⟨date, time⟩

def text (separator : Char) (timestamp : Timestamp) : List Char :=
  timestamp.date.text ++ separator :: timestamp.time.text

def number? (width : Nat) (text : List Char) : Option (Nat × List Char) :=
  let text := skipBlanks text
  let digits := (text.take width).takeWhile Char.isDigit
  if digits = [] then none else some (ofDecimalDigits digits, text.drop digits.length)

/-- A year of up to four digits, or of any number of digits after a sign. -/
def year? (text : List Char) : Option (Int × List Char) :=
  let signed (sign : Int) (text : List Char) : Option (Int × List Char) :=
    let (digits, rest) := spanDigits text
    if digits = [] then none else some (sign * ofDecimalDigits digits, rest)
  match skipBlanks text with
  | '-' :: rest => signed (-1) rest
  | '+' :: rest => signed 1 rest
  | text => (number? 4 text).map fun (year, rest) => (year, rest)

def mark? (mark : Char) (text : List Char) : Option (List Char) :=
  match skipBlanks text with
  | [] => none
  | c :: rest => if c = mark then some rest else none

def fraction? : List Char → Option (Nat × List Char)
  | '.' :: rest =>
      let (digits, rest) := spanDigits rest
      let kept := digits.take 9
      if digits = [] then none
      else some (ofDecimalDigits kept * 10 ^ (9 - kept.length), rest)
  | rest => some (0, rest)

/-- The seconds 60 of a leap second as second 59 and a whole second of nanoseconds. -/
def leapSecond (second nanosecond : Nat) : Nat × Nat :=
  if second = 60 then (59, 10 ^ 9 + nanosecond) else (second, nanosecond)

/-- Reads a date and a time with a `T` between them. Blanks may stand before each part and at the
end. -/
def read? (text : List Char) : Option Timestamp := do
  let (year, text) ← year? text
  let text ← mark? '-' text
  let (month, text) ← number? 2 text
  let text ← mark? '-' text
  let (day, text) ← number? 2 text
  let text ← mark? 'T' text
  let (hour, text) ← number? 2 text
  let text ← mark? ':' text
  let (minute, text) ← number? 2 text
  let text ← mark? ':' text
  let (second, text) ← number? 2 text
  let (nanosecond, text) ← fraction? text
  if skipBlanks text = [] then
    let (second, nanosecond) := leapSecond second nanosecond
    ofParts? year month day hour minute second nanosecond
  else none

end Timestamp
end QueryAlgebra
