import Reminders.Text.Digit
import Reminders.Timestamp.Basic

/-!
# Writing timestamps

Years from 0 to 9999 have four digits and no sign; other years have a sign and at least four digits.
A fraction of a second has the fewest digits out of 3, 6 and 9 that give it exactly, and is left out
when it is zero. A leap second is second 60. There are two forms: `text`, for data, puts a `T`
before the time and a `Z` after it; `display`, for messages, puts a space before the time and `UTC`
after it.
-/

namespace Reminders.Timestamp

open Text (fixedDigits)

/-- A number in at least four digits. -/
def atLeastFour (n : Nat) : List Char :=
  if n < 10000 then fixedDigits 10 4 n else Nat.toDigits 10 n

def yearChars (year : Int) : List Char :=
  if 0 ≤ year ∧ year ≤ 9999 then fixedDigits 10 4 year.toNat
  else (if year < 0 then '-' else '+') :: atLeastFour year.natAbs

def dateChars (date : Date) : List Char :=
  yearChars date.year ++ '-' :: fixedDigits 10 2 date.month ++ '-' :: fixedDigits 10 2 date.day

def fractionChars (nano : Nat) : List Char :=
  if nano = 0 then []
  else if nano % 1000000 = 0 then '.' :: fixedDigits 10 3 (nano / 1000000)
  else if nano % 1000 = 0 then '.' :: fixedDigits 10 6 (nano / 1000)
  else '.' :: fixedDigits 10 9 nano

def timeChars (second nano : Nat) : List Char :=
  fixedDigits 10 2 (second / 3600) ++ ':' :: fixedDigits 10 2 (second / 60 % 60) ++
    ':' :: fixedDigits 10 2 (second % 60 + nano / 1000000000) ++ fractionChars (nano % 1000000000)

/-- The form for data, as characters. -/
def chars (t : Timestamp) : List Char :=
  dateChars (Date.ofDayNumber t.day) ++ 'T' :: timeChars t.second t.nano ++ ['Z']

def text (t : Timestamp) : String := String.ofList t.chars

/-- The form for messages. -/
def display (t : Timestamp) : String :=
  String.ofList (dateChars (Date.ofDayNumber t.day) ++ ' ' :: timeChars t.second t.nano) ++ " UTC"

instance : ToString Timestamp := ⟨text⟩

end Reminders.Timestamp
