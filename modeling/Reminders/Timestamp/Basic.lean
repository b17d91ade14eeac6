import Reminders.Calendar

/-!
# Timestamps

An instant of UTC to the nanosecond, on a day of the calendar between the years -262143 and 262142.
Any second may be followed by a leap second, which is kept as that second with at least 10^9
nanoseconds: it comes after the second it extends and before the next one.
-/

namespace Reminders

structure Timestamp where
  /-- The number of the day. -/
  day : Int
  /-- The second of the day. -/
  second : Nat
  /-- The nanoseconds past the second, 10^9 or more during a leap second. -/
  nano : Nat
  day_mem : -96465292 ≤ day ∧ day ≤ 95026236
  second_lt : second < 86400
  nano_lt : nano < 2000000000
deriving DecidableEq, Repr

namespace Timestamp

/-- The first day of a timestamp, the first of January in the year -262143. -/
def firstDay : Int := -96465292

/-- The last day of a timestamp, the last of December in the year 262142. -/
def lastDay : Int := 95026236

theorem firstDay_eq : firstDay = yearStart (-262143) := by decide

theorem lastDay_eq : lastDay = yearStart 262143 - 1 := by decide

def epoch : Timestamp :=
  ⟨0, 0, 0, by decide, by decide, by decide⟩

instance : Inhabited Timestamp := ⟨epoch⟩

/-- The place of a timestamp on a line that leaves room for a leap second after every second. -/
def position (t : Timestamp) : Int := (t.day * 86400 + t.second) * 2000000000 + t.nano

instance : LT Timestamp := ⟨fun a b => a.position < b.position⟩

instance : LE Timestamp := ⟨fun a b => a.position ≤ b.position⟩

instance (a b : Timestamp) : Decidable (a < b) :=
  inferInstanceAs (Decidable (a.position < b.position))

instance (a b : Timestamp) : Decidable (a ≤ b) :=
  inferInstanceAs (Decidable (a.position ≤ b.position))

theorem lt_iff {a b : Timestamp} : a < b ↔ a.position < b.position := Iff.rfl

theorem le_iff {a b : Timestamp} : a ≤ b ↔ a.position ≤ b.position := Iff.rfl

/-- No two timestamps share a place. -/
theorem position_inj {a b : Timestamp} (h : a.position = b.position) : a = b := by
  obtain ⟨da, sa, na, _, hsa, hna⟩ := a
  obtain ⟨db, sb, nb, _, hsb, hnb⟩ := b
  simp only [position] at h
  obtain rfl : na = nb := by omega
  obtain rfl : sa = sb := by omega
  obtain rfl : da = db := by omega
  rfl

theorem not_le {a b : Timestamp} : ¬a ≤ b ↔ b < a := by
  rw [le_iff, lt_iff]
  omega

theorem not_lt {a b : Timestamp} : ¬a < b ↔ b ≤ a := by
  rw [lt_iff, le_iff]
  omega

/-- The order of timestamps, by the day, then by the second, then by the nanoseconds. Within a leap
second there are more of these than in the second it extends. -/
inductive Precedes (a b : Timestamp) : Prop where
  | day (earlier : a.day < b.day)
  | second (same : a.day = b.day) (earlier : a.second < b.second)
  | nano (sameDay : a.day = b.day) (sameSecond : a.second = b.second) (earlier : a.nano < b.nano)

theorem lt_iff_precedes {a b : Timestamp} : a < b ↔ a.Precedes b := by
  have := a.second_lt
  have := b.second_lt
  have := a.nano_lt
  have := b.nano_lt
  rw [lt_iff, position, position]
  constructor
  · intro lower
    rcases Int.lt_trichotomy a.day b.day with earlier | same | later
    · exact .day earlier
    · rcases Nat.lt_trichotomy a.second b.second with earlier | same' | later
      · exact .second same earlier
      · exact .nano same same' (by omega)
      · omega
    · omega
  · rintro (earlier | ⟨same, earlier⟩ | ⟨same, same', earlier⟩)
    · omega
    · omega
    · omega

/-- The timestamp on a day that may be out of range. -/
def ofDay? (day : Int) (second nano : Nat) : Option Timestamp :=
  if h : (-96465292 ≤ day ∧ day ≤ 95026236) ∧ second < 86400 ∧ nano < 2000000000 then
    some ⟨day, second, nano, h.1, h.2.1, h.2.2⟩
  else none

@[simp] theorem ofDay?_self (t : Timestamp) : ofDay? t.day t.second t.nano = some t := by
  unfold ofDay?
  rw [dif_pos ⟨t.day_mem, t.second_lt, t.nano_lt⟩]

/-- The milliseconds since 1970 began, none of them counted for a leap second. -/
def millis (t : Timestamp) : Int :=
  (t.day * 86400 + t.second) * 1000 + (min t.nano 999999999 / 1000000 : Nat)

end Timestamp

end Reminders
