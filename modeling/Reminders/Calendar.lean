/-!
# The proleptic Gregorian calendar

Days are numbered from the first day of 1970, and `Date` gives the year, month and day of the month
of each. The main statements say that the two descriptions agree: `dayNumber_ofDayNumber`, and that
`ofDayNumber` always gives a date that exists.
-/

namespace Reminders

def isLeapYear (year : Int) : Bool :=
  year % 4 = 0 && (year % 100 ≠ 0 || year % 400 = 0)

def monthLengths (leap : Bool) : List Nat :=
  [31, if leap then 29 else 28, 31, 30, 31, 30, 31, 31, 30, 31, 30, 31]

def yearStart (year : Int) : Int :=
  365 * year + (year - 1) / 4 - (year - 1) / 100 + (year - 1) / 400 - 719527

/-- The year that a day falls in. The average length of a year gives a first guess, which is at most
one year off. -/
def yearOf (day : Int) : Int :=
  let guess := 400 * (day + 719528) / 146097
  if day < yearStart guess then guess - 1
  else if yearStart (guess + 1) ≤ day then guess + 1
  else guess

/-- The number of days that stretches of given lengths have. -/
def daysOf : List Nat → Nat
  | [] => 0
  | length :: lengths => length + daysOf lengths

@[simp] theorem daysOf_nil : daysOf [] = 0 := rfl

@[simp] theorem daysOf_cons (length : Nat) (lengths : List Nat) :
    daysOf (length :: lengths) = length + daysOf lengths := rfl

/-- The position among stretches of given lengths of a number of days counted from their start: how
many whole stretches precede it, and how many days of the next one. -/
def locate : List Nat → Nat → Nat × Nat
  | [], days => (0, days)
  | length :: lengths, days =>
      if days < length then (0, days)
      else
        let p := locate lengths (days - length)
        (p.1 + 1, p.2)

/-- A day of the calendar. Months and days of the month are counted from one. -/
structure Date where
  year : Int
  month : Nat
  day : Nat
deriving DecidableEq, Repr

namespace Date

def isValid (date : Date) : Bool :=
  1 ≤ date.month && 1 ≤ date.day &&
    match (monthLengths (isLeapYear date.year))[date.month - 1]? with
    | some length => date.day ≤ length
    | none => false

def dayNumber (date : Date) : Int :=
  yearStart date.year + daysOf ((monthLengths (isLeapYear date.year)).take (date.month - 1)) +
    date.day - 1

def ofDayNumber (day : Int) : Date :=
  let year := yearOf day
  let p := locate (monthLengths (isLeapYear year)) (day - yearStart year).toNat
  ⟨year, p.1 + 1, p.2 + 1⟩

end Date

theorem yearStart_yearOf_le (day : Int) : yearStart (yearOf day) ≤ day := by
  unfold yearOf
  simp only
  split
  · simp only [yearStart] at *
    omega
  · split
    · assumption
    · omega

theorem lt_yearStart_yearOf_succ (day : Int) : day < yearStart (yearOf day + 1) := by
  unfold yearOf
  simp only
  split
  · simpa using by assumption
  · split
    · simp only [yearStart] at *
      omega
    · omega

theorem yearStart_succ (year : Int) :
    yearStart (year + 1) = yearStart year + if isLeapYear year then 366 else 365 := by
  have hl : isLeapYear year = true ↔ year % 4 = 0 ∧ (year % 100 ≠ 0 ∨ year % 400 = 0) := by
    simp [isLeapYear]
  unfold yearStart
  by_cases h : isLeapYear year = true
  · rw [if_pos h]
    have := hl.1 h
    omega
  · rw [if_neg h]
    have : ¬(year % 4 = 0 ∧ (year % 100 ≠ 0 ∨ year % 400 = 0)) := fun hh => h (hl.2 hh)
    omega

theorem daysOf_monthLengths (leap : Bool) :
    daysOf (monthLengths leap) = if leap then 366 else 365 := by
  cases leap <;> rfl

/-- What `locate` finds within the stretches adds up to the days it was given. -/
theorem locate_spec {lengths : List Nat} {days : Nat} (h : days < daysOf lengths) :
    ∃ length, lengths[(locate lengths days).1]? = some length ∧
      (locate lengths days).2 < length ∧
      daysOf (lengths.take (locate lengths days).1) + (locate lengths days).2 = days := by
  induction lengths generalizing days with
  | nil => simp at h
  | cons length lengths ih =>
      simp only [locate]
      split
      · next hd => exact ⟨length, by simp [hd]⟩
      · next hd =>
          rw [daysOf_cons] at h
          obtain ⟨l, hl, hlt, hsum⟩ := ih (show days - length < daysOf lengths by omega)
          refine ⟨l, by simpa using hl, hlt, ?_⟩
          simp only [List.take_succ_cons, daysOf_cons]
          omega

namespace Date

theorem daysIntoYear_lt (day : Int) :
    (day - yearStart (yearOf day)).toNat < daysOf (monthLengths (isLeapYear (yearOf day))) := by
  have lo := yearStart_yearOf_le day
  have hi := lt_yearStart_yearOf_succ day
  rw [yearStart_succ] at hi
  rw [daysOf_monthLengths]
  split at hi <;> simp_all <;> omega

/-- A day's date has that day's number. -/
@[simp] theorem dayNumber_ofDayNumber (day : Int) : (ofDayNumber day).dayNumber = day := by
  obtain ⟨_, -, -, hsum⟩ := locate_spec (daysIntoYear_lt day)
  have lo := yearStart_yearOf_le day
  simp only [ofDayNumber, dayNumber, Nat.add_sub_cancel]
  omega

/-- Every day has a date that exists. -/
@[simp] theorem isValid_ofDayNumber (day : Int) : (ofDayNumber day).isValid = true := by
  obtain ⟨length, hl, hlt, -⟩ := locate_spec (daysIntoYear_lt day)
  simp only [ofDayNumber, isValid, Nat.add_sub_cancel, hl, Bool.and_eq_true]
  refine ⟨⟨decide_eq_true ?_, decide_eq_true ?_⟩, decide_eq_true ?_⟩ <;> omega

end Date

end Reminders
