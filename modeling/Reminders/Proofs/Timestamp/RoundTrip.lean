import Reminders.Proofs.Timestamp.Settled

/-!
# Timestamps read back

The form of a timestamp for data is read back as the timestamp that it spells (`parse?_chars`), over
the whole range: years with a sign, fractions of any width, and leap seconds, which are written as
second 60 at the end of a minute and carried into the next second elsewhere. Each part of the form
is read off the front of a longer text, and the reader of the part leaves what follows it.
-/

namespace Reminders

open Text (Spells decimal? fixedDigits isBlank trimStart)

/-- A year that a timestamp can fall in has at most six digits. -/
theorem natAbs_yearOf_lt {day : Int} (h : -96465292 ≤ day ∧ day ≤ 95026236) :
    (yearOf day).natAbs < 1000000 := by
  have lo := yearStart_yearOf_le day
  have hi := lt_yearStart_yearOf_succ day
  simp only [yearStart] at lo hi
  omega

/-- A date that exists has a month and a day of two digits. -/
theorem Date.lt_of_isValid {date : Date} (h : date.isValid = true) :
    date.month < 100 ∧ date.day < 100 := by
  simp only [isValid, Bool.and_eq_true, decide_eq_true_eq] at h
  obtain ⟨⟨hmonth, hday⟩, within⟩ := h
  split at within
  · next length found =>
      obtain ⟨place, -⟩ := List.getElem?_eq_some_iff.mp found
      have longest : ∀ leap, ∀ length ∈ monthLengths leap, length ≤ 31 := by decide
      have hlength := longest _ length (List.mem_of_getElem? found)
      have twelve : (monthLengths (isLeapYear date.year)).length = 12 := rfl
      rw [decide_eq_true_eq] at within
      omega
  · cases within

namespace Timestamp

variable {cs : List Char} {n : Nat}

theorem readDigits_digitChar {d : Nat} (h : d < 10) (limit : Nat) (cs : List Char) (n : Nat) :
    readDigits (limit + 1) (Nat.digitChar d :: cs) n = readDigits limit cs (10 * n + d) := by
  simp only [readDigits, Text.decimal?_digitChar h]

/-- Digits within the limit are all read, and leave the limit as much shorter. -/
theorem readDigits_of_spells (h : Spells cs n) (limit : Nat) (rest : List Char) :
    readDigits (cs.length + limit) (cs ++ rest) 0 = readDigits limit rest n := by
  induction h generalizing limit rest with
  | none => simp
  | @digit cs n d front small ih =>
      rw [List.append_assoc, List.singleton_append, List.length_append, List.length_singleton,
        Nat.add_assoc, Nat.add_comm 1 limit, ih, readDigits_digitChar small]

theorem readNumber_of_spells (h : Spells cs n) (given : cs ≠ []) (limit : Nat)
    (rest : List Char) :
    readNumber (cs.length + limit) (cs ++ rest) = some (readDigits limit rest n) := by
  rw [← readDigits_of_spells h]
  obtain ⟨d, small, ds, rfl⟩ := h.exists_cons given
  have first : decimal? (Nat.digitChar d) = some d := Text.decimal?_digitChar small
  have shorter : (Nat.digitChar d :: ds).length + limit = ds.length + limit + 1 := by
    rw [List.length_cons]
    omega
  rw [shorter, List.cons_append, readDigits_digitChar small]
  simp [readNumber, first]

theorem trimStart_of_spells (h : Spells cs n) (given : cs ≠ []) (rest : List Char) :
    trimStart (cs ++ rest) = cs ++ rest := by
  obtain ⟨d, small, ds, rfl⟩ := h.exists_cons given
  exact Text.trimStart_cons_dark (Text.isBlank_digitChar small) _

/-- A field of two digits is read whatever follows. -/
theorem readField_fixedDigits {n : Nat} (h : n < 100) (rest : List Char) :
    readField (fixedDigits 10 2 n ++ rest) = some (n, rest) := by
  have spells : Spells (fixedDigits 10 2 n) n := Text.spells_fixedDigits_of_lt h
  have given : fixedDigits 10 2 n ≠ [] := by simp [fixedDigits]
  rw [readField, trimStart_of_spells spells given]
  exact readNumber_of_spells spells given 0 rest

theorem readYearDigits_of_spells (h : Spells cs n) (bound : n < yearBound) (rest : List Char) :
    readYearDigits (cs ++ rest) 0 = readYearDigits rest n := by
  induction h generalizing rest with
  | none => rfl
  | @digit cs n d front small ih =>
      rw [List.append_assoc, List.singleton_append, ih (by omega), readYearDigits]
      simp only [Text.decimal?_digitChar small]
      rw [if_neg (by omega)]

theorem readSignedYear_of_spells (h : Spells cs n) (given : cs ≠ []) (bound : n < yearBound)
    (rest : List Char) : readSignedYear (cs ++ '-' :: rest) = some (n, '-' :: rest) := by
  have digits : readYearDigits (cs ++ '-' :: rest) 0 = some (n, '-' :: rest) := by
    rw [readYearDigits_of_spells h bound]
    rfl
  rw [readSignedYear, digits]
  obtain ⟨d, small, ds, rfl⟩ := h.exists_cons given
  simp [Text.decimal?_digitChar small]

/-- A year that begins with a digit has no sign. -/
theorem readYear_digitChar {d : Nat} (h : d < 10) (cs : List Char) :
    readYear (Nat.digitChar d :: cs) =
      (readNumber 4 (Nat.digitChar d :: cs)).map fun p => ((p.1 : Int), p.2) := by
  match d, h with
  | 0, _ | 1, _ | 2, _ | 3, _ | 4, _ | 5, _ | 6, _ | 7, _ | 8, _ | 9, _ => rfl

theorem spells_atLeastFour (n : Nat) : Spells (atLeastFour n) n := by
  rw [atLeastFour]
  split
  · next h => exact Text.spells_fixedDigits_of_lt h
  · exact Text.spells_toDigits n

theorem atLeastFour_ne_nil (n : Nat) : atLeastFour n ≠ [] := by
  rw [atLeastFour]
  split
  · simp [fixedDigits]
  · exact Nat.toDigits_ne_nil

theorem readYear_yearChars {year : Int} (h : year.natAbs < yearBound) (rest : List Char) :
    readYear (yearChars year ++ '-' :: rest) = some (year, '-' :: rest) := by
  have signed := readSignedYear_of_spells (spells_atLeastFour year.natAbs)
    (atLeastFour_ne_nil year.natAbs) h rest
  rw [yearChars]
  split
  · next plain =>
      have spells : Spells (fixedDigits 10 4 year.toNat) year.toNat :=
        Text.spells_fixedDigits_of_lt (show year.toNat < 10000 by omega)
      have given : fixedDigits 10 4 year.toNat ≠ [] := by simp [fixedDigits]
      have number := readNumber_of_spells spells given 0 ('-' :: rest)
      rw [Text.length_fixedDigits] at number
      obtain ⟨d, small, ds, first⟩ := spells.exists_cons given
      rw [first, List.cons_append] at number ⊢
      have value : ((year.toNat : Nat) : Int) = year := Int.toNat_of_nonneg plain.1
      rw [readYear_digitChar small, number]
      simp only [readDigits, Option.map_some, value]
  · split
    · next negative =>
        have read : readYear ('-' :: (atLeastFour year.natAbs ++ '-' :: rest)) =
            (readSignedYear (atLeastFour year.natAbs ++ '-' :: rest)).map
              fun p => (-(p.1 : Int), p.2) := rfl
        rw [List.cons_append, read, signed, Option.map_some]
        congr 2
        omega
    · next positive =>
        have read : readYear ('+' :: (atLeastFour year.natAbs ++ '-' :: rest)) =
            (readSignedYear (atLeastFour year.natAbs ++ '-' :: rest)).map
              fun p => ((p.1 : Int), p.2) := rfl
        rw [List.cons_append, read, signed, Option.map_some]
        congr 2
        omega

/-- A date that exists, in a year of at most six digits, is read off the front of a text. -/
theorem readDate_dateChars {date : Date} (valid : date.isValid = true)
    (year : date.year.natAbs < yearBound) (month : date.month < 100) (day : date.day < 100)
    (rest : List Char) : readDate (dateChars date ++ rest) = some (date, rest) := by
  have hyphen (cs : List Char) : readMark '-' ('-' :: cs) = some cs := rfl
  rw [dateChars]
  simp only [List.append_assoc, List.cons_append, readDate, readYear_yearChars year, hyphen,
    readField_fixedDigits month, readField_fixedDigits day, bind, Option.bind, valid, if_true]

theorem readFraction_of_spells (h : Spells cs n) (given : cs ≠ []) (short : cs.length ≤ 9)
    (rest : List Char) :
    readFraction (cs ++ 'Z' :: rest) = some (n * .pow 10 (9 - cs.length), 'Z' :: rest) := by
  have stop (limit : Nat) : readDigits limit ('Z' :: rest) n = (n, 'Z' :: rest) := by
    cases limit <;> rfl
  have number := readNumber_of_spells h given (9 - cs.length) ('Z' :: rest)
  rw [Nat.add_sub_cancel' short, stop] at number
  have width : (cs ++ 'Z' :: rest).length - ('Z' :: rest).length = cs.length := by
    rw [List.length_append, Nat.add_sub_cancel]
  rw [readFraction, number]
  simp only [width]
  rfl

/-- A fraction is read back, also one that is left out. -/
theorem readNanos_fractionChars {nano : Nat} (h : nano < 1000000000) (rest : List Char) :
    readNanos (fractionChars nano ++ 'Z' :: rest) = some (nano, 'Z' :: rest) := by
  have fraction (width bound scale : Nat) (given : 0 < width) (short : width ≤ 9)
      (hbound : .pow 10 width = bound) (hscale : .pow 10 (9 - width) = scale) {n : Nat}
      (fits : n < bound) (exact : n * scale = nano) :
      readNanos ('.' :: fixedDigits 10 width n ++ 'Z' :: rest) = some (nano, 'Z' :: rest) := by
    subst hbound hscale
    have nonempty : fixedDigits 10 width n ≠ [] := by
      intro empty
      have length := congrArg List.length empty
      rw [Text.length_fixedDigits] at length
      exact absurd length (Nat.ne_of_gt given)
    have read := readFraction_of_spells (Text.spells_fixedDigits_of_lt fits) nonempty
      (by rw [Text.length_fixedDigits]; exact short) rest
    rw [Text.length_fixedDigits, exact] at read
    exact read
  rw [fractionChars]
  split
  · next zero =>
      rw [zero]
      rfl
  · split
    · exact fraction 3 1000 1000000 (by decide) (by decide) rfl rfl (by omega) (by omega)
    · split
      · exact fraction 6 1000000 1000 (by decide) (by decide) rfl rfl (by omega) (by omega)
      · exact fraction 9 1000000000 1 (by decide) (by decide) rfl rfl h (by omega)

/-- A time of day is read back in front of the letter that ends it. -/
theorem readTime_timeChars {second nano : Nat} (hsecond : second < 86400)
    (hnano : nano < 2000000000) (leap : 1000000000 ≤ nano → second % 60 = 59)
    (rest : List Char) :
    readTime (timeChars second nano ++ 'Z' :: rest) = some ((second, nano), 'Z' :: rest) := by
  have colon (cs : List Char) : readMark ':' (':' :: cs) = some cs := rfl
  have hour : second / 3600 < 100 := by omega
  have minute : second / 60 % 60 < 100 := by omega
  have last : second % 60 + nano / 1000000000 < 100 := by omega
  have fraction : nano % 1000000000 < 1000000000 := by omega
  rw [timeChars]
  simp only [List.append_assoc, List.cons_append, readTime, colon, readField_fixedDigits hour,
    readField_fixedDigits minute, readField_fixedDigits last, readNanos_fractionChars fraction,
    bind, Option.bind]
  rw [if_neg (by simp; omega)]
  by_cases long : 1000000000 ≤ nano
  · have at59 := leap long
    rw [if_pos (by omega)]
    congr 3 <;> omega
  · rw [if_neg (by omega)]
    congr 3 <;> omega

/-- In UTC a day, a second and nanoseconds of a timestamp are those of the timestamp. -/
theorem ofLocal?_ofDayNumber (t : Timestamp) :
    ofLocal? (Date.ofDayNumber t.day) t.second t.nano 0 = some t := by
  have inRange : firstDay ≤ t.day ∧ t.day ≤ lastDay := t.day_mem
  have hsecond := t.second_lt
  have day : (t.day * 86400 + t.second - 0) / 86400 = t.day := by omega
  have second : ((t.day * 86400 + t.second - 0) % 86400).toNat = t.second := by omega
  simp only [ofLocal?, Date.dayNumber_ofDayNumber]
  rw [if_pos inRange, day, second]
  exact ofDay?_self t

theorem parse?_chars_of_settled {t : Timestamp} (h : t.Settled) : parse? t.chars = some t := by
  have valid := Date.isValid_ofDayNumber t.day
  obtain ⟨month, day⟩ := Date.lt_of_isValid valid
  have date := readDate_dateChars valid (natAbs_yearOf_lt t.day_mem) month day
    ('T' :: (timeChars t.second t.nano ++ ['Z']))
  have separator (cs : List Char) : readSeparator ('T' :: cs) = some cs := rfl
  have time := readTime_timeChars t.second_lt t.nano_lt h []
  have zone : readZone ['Z'] = some (0, []) := rfl
  rw [chars]
  simp only [List.append_assoc, List.cons_append, parse?, date, separator, time, zone, bind,
    Option.bind]
  exact ofLocal?_ofDayNumber t

/-- The form for data reads back, with every leap second at the end of a minute. -/
@[simp] theorem parse?_chars (t : Timestamp) : parse? t.chars = some t.settle := by
  rw [← chars_settle, parse?_chars_of_settled t.settled_settle]

@[simp] theorem ofText?_text (t : Timestamp) : ofText? t.text = some t.settle := by
  simp [ofText?, text]

end Timestamp

end Reminders
