import Reminders.Text.Blank
import Reminders.Text.Digit
import Reminders.Timestamp.Basic

/-!
# Reading timestamps

A timestamp is a date, a `T` or a space, a time of day and a zone. Blank characters are allowed
before numbers, before the hyphens and colons between them, before the zone and at the end. A year
without a sign has at most four digits; the other numbers have at most two. A fraction may have any
number of digits, of which nine count. The zone is `Z`, `UTC`, or an offset of less than a day whose
hours and minutes may be set apart by colons and blank characters. Readers take a text and return
what they read together with the rest.
-/

namespace Reminders.Timestamp

open Text (decimal? isBlank trimStart)

/-- Reads all decimal digits at the front, up to a limit, after those already read into `n`. -/
def readDigits : (limit : Nat) → List Char → (n : Nat) → Nat × List Char
  | 0, cs, n => (n, cs)
  | _, [], n => (n, [])
  | limit + 1, c :: cs, n =>
      match decimal? c with
      | some d => readDigits limit cs (10 * n + d)
      | none => (n, c :: cs)

/-- Reads a number of at least one digit and at most `limit` digits. -/
def readNumber (limit : Nat) : List Char → Option (Nat × List Char)
  | [] => none
  | c :: cs =>
      match decimal? c with
      | some d => some (readDigits (limit - 1) cs d)
      | none => none

/-- Reads a number of one or two digits after blank characters. -/
def readField (cs : List Char) : Option (Nat × List Char) := readNumber 2 (trimStart cs)

/-- A number that no year of a timestamp reaches, with or without a sign. -/
def yearBound : Nat := 1000000

/-- Reads all decimal digits at the front after those already read into `n`, unless they spell a
number that no year reaches. -/
def readYearDigits : List Char → (n : Nat) → Option (Nat × List Char)
  | [], n => some (n, [])
  | c :: cs, n =>
      match decimal? c with
      | some d => if yearBound ≤ 10 * n + d then none else readYearDigits cs (10 * n + d)
      | none => some (n, c :: cs)

/-- Reads a year of at least one digit that has a sign. -/
def readSignedYear (cs : List Char) : Option (Nat × List Char) :=
  if cs.head?.any fun c => (decimal? c).isSome then readYearDigits cs 0 else none

def readYear (cs : List Char) : Option (Int × List Char) :=
  match trimStart cs with
  | '-' :: rest => (readSignedYear rest).map fun p => (-(p.1 : Int), p.2)
  | '+' :: rest => (readSignedYear rest).map fun p => ((p.1 : Int), p.2)
  | rest => (readNumber 4 rest).map fun p => ((p.1 : Int), p.2)

def readMark (mark : Char) (cs : List Char) : Option (List Char) :=
  match trimStart cs with
  | c :: rest => if c = mark then some rest else none
  | [] => none

def readDate (cs : List Char) : Option (Date × List Char) := do
  let (year, cs) ← readYear cs
  let cs ← readMark '-' cs
  let (month, cs) ← readField cs
  let cs ← readMark '-' cs
  let (day, cs) ← readField cs
  let date : Date := ⟨year, month, day⟩
  if date.isValid then some (date, cs) else none

/-- Reads the digits of a fraction into nanoseconds. Those past the ninth are read and dropped. -/
def readFraction (cs : List Char) : Option (Nat × List Char) :=
  match readNumber 9 cs with
  | none => none
  | some (n, rest) =>
      let scale := Nat.pow 10 (9 - (cs.length - rest.length))
      some (n * scale, rest.dropWhile fun c => (decimal? c).isSome)

def readNanos : List Char → Option (Nat × List Char)
  | '.' :: cs => readFraction cs
  | cs => some (0, cs)

/-- Reads a time of day into a second of the day and nanoseconds past it. -/
def readTime (cs : List Char) : Option ((Nat × Nat) × List Char) := do
  let (hour, cs) ← readField cs
  let cs ← readMark ':' cs
  let (minute, cs) ← readField cs
  let cs ← readMark ':' cs
  let (second, cs) ← readField cs
  let (nano, cs) ← readNanos cs
  if 23 < hour || 59 < minute || 60 < second then none
  else if second = 60 then some ((hour * 3600 + minute * 60 + 59, nano + 1000000000), cs)
  else some ((hour * 3600 + minute * 60 + second, nano), cs)

def readTwoDigits : List Char → Option (Nat × List Char)
  | a :: b :: cs => do
      let tens ← decimal? a
      let units ← decimal? b
      return (10 * tens + units, cs)
  | _ => none

def readOffset (cs : List Char) : Option (Int × List Char) := do
  let (hours, cs) ← readTwoDigits cs
  let (minutes, cs) ← readTwoDigits (cs.dropWhile fun c => c = ':' || isBlank c)
  if 23 < hours || 59 < minutes then none
  else some (((hours * 3600 + minutes * 60 : Nat) : Int), cs)

/-- Reads a zone into the seconds by which it is ahead of UTC. -/
def readZone (cs : List Char) : Option (Int × List Char) :=
  match trimStart cs with
  | 'Z' :: rest => some (0, rest)
  | 'z' :: rest => some (0, rest)
  | '+' :: rest => readOffset rest
  | '-' :: rest => (readOffset rest).map fun p => (-p.1, p.2)
  | '\u2212' :: rest => (readOffset rest).map fun p => (-p.1, p.2)
  | a :: b :: c :: rest =>
      if [a, b, c].map Char.toUpper = ['U', 'T', 'C'] then some (0, rest) else none
  | _ => none

/-- Reads the character between a date and a time. -/
def readSeparator : List Char → Option (List Char)
  | 'T' :: cs => some cs
  | 't' :: cs => some cs
  | ' ' :: cs => some cs
  | _ => none

/-- The timestamp of a local date and time in a zone. The local date has to be in range as well. -/
def ofLocal? (date : Date) (second nano : Nat) (offset : Int) : Option Timestamp :=
  let day := date.dayNumber
  if firstDay ≤ day ∧ day ≤ lastDay then
    let utc := day * 86400 + second - offset
    ofDay? (utc / 86400) (utc % 86400).toNat nano
  else none

/-- Reads a timestamp that takes up a whole text. -/
def parse? (cs : List Char) : Option Timestamp := do
  let (date, cs) ← readDate cs
  let cs ← readSeparator cs
  let ((second, nano), cs) ← readTime cs
  let (offset, cs) ← readZone cs
  if (trimStart cs).isEmpty then ofLocal? date second nano offset else none

def ofText? (s : String) : Option Timestamp := parse? s.toList

end Reminders.Timestamp
