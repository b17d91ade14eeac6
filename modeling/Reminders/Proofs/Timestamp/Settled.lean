import Mathlib.Algebra.Group.Nat.Defs
import Reminders.Proofs.Text.Spelling
import Reminders.Timestamp.Printer
import Reminders.Timestamp.Reader

/-!
# Where leap seconds stand

A timestamp may have a leap second after any second, but only after the last second of a minute is
it written as one, as second 60. Elsewhere it is written like a part of the next second, and that is
the timestamp which the text spells (`settle`). Settled timestamps are those that their own text
spells, and no others are ever read (`settled_of_ofText?`).
-/

namespace Reminders.Timestamp

/-- A leap second stands only after the last second of a minute. -/
def Settled (t : Timestamp) : Prop := 1000000000 ≤ t.nano → t.second % 60 = 59

instance (t : Timestamp) : Decidable t.Settled :=
  inferInstanceAs (Decidable (1000000000 ≤ t.nano → t.second % 60 = 59))

/-- The timestamp that the text of a timestamp spells. A leap second that does not stand after the
last second of a minute becomes a part of the next second. -/
def settle (t : Timestamp) : Timestamp :=
  if h : 1000000000 ≤ t.nano ∧ t.second % 60 ≠ 59 then
    { t with
      second := t.second + 1
      nano := t.nano - 1000000000
      second_lt := by
        have := t.second_lt
        omega
      nano_lt := by
        have := t.nano_lt
        omega }
  else t

theorem settle_of_settled {t : Timestamp} (h : t.Settled) : t.settle = t :=
  dif_neg fun ⟨leap, early⟩ => early (h leap)

/-- A leap second in the middle of a minute is carried into the next second. -/
theorem settle_of_not_settled {t : Timestamp} (h : ¬t.Settled) :
    t.settle.day = t.day ∧ t.settle.second = t.second + 1 ∧
      t.settle.nano + 1000000000 = t.nano := by
  obtain ⟨leap, early⟩ := Classical.not_imp.mp h
  rw [settle, dif_pos ⟨leap, early⟩]
  exact ⟨rfl, rfl, Nat.sub_add_cancel leap⟩

@[simp] theorem day_settle (t : Timestamp) : t.settle.day = t.day := by
  by_cases h : t.Settled
  · rw [settle_of_settled h]
  · exact (settle_of_not_settled h).1

theorem settled_settle (t : Timestamp) : t.settle.Settled := by
  by_cases h : t.Settled
  · rwa [settle_of_settled h]
  · obtain ⟨-, -, nano⟩ := settle_of_not_settled h
    have := t.nano_lt
    intro leap
    omega

theorem settle_eq_self_iff {t : Timestamp} : t.settle = t ↔ t.Settled :=
  ⟨fun same => same ▸ t.settled_settle, settle_of_settled⟩

/-- What is carried into the next second is written there. -/
theorem timeChars_settle (t : Timestamp) :
    timeChars t.settle.second t.settle.nano = timeChars t.second t.nano := by
  by_cases h : t.Settled
  · rw [settle_of_settled h]
  · obtain ⟨leap, early⟩ := Classical.not_imp.mp h
    obtain ⟨-, second, nano⟩ := settle_of_not_settled h
    have bound := t.nano_lt
    have hour : t.settle.second / 3600 = t.second / 3600 := by omega
    have minute : t.settle.second / 60 % 60 = t.second / 60 % 60 := by omega
    have last : t.settle.second % 60 + t.settle.nano / 1000000000 =
        t.second % 60 + t.nano / 1000000000 := by omega
    have fraction : t.settle.nano % 1000000000 = t.nano % 1000000000 := by omega
    rw [timeChars, timeChars, hour, minute, last, fraction]

@[simp] theorem chars_settle (t : Timestamp) : t.settle.chars = t.chars := by
  rw [chars, chars, day_settle, timeChars_settle]

@[simp] theorem text_settle (t : Timestamp) : t.settle.text = t.text := by
  rw [text, text, chars_settle]

/-! ### What is read -/

variable {cs rest : List Char}

/-- By recursion on the limit, `k` digits that are read make a number of at most `k` digits. -/
theorem readDigits_lt (limit : Nat) (cs : List Char) (n : Nat) :
    ∃ k ≤ limit, (readDigits limit cs n).2.length + k = cs.length ∧
      (readDigits limit cs n).1 < (n + 1) * 10 ^ k := by
  induction limit generalizing cs n with
  | zero => exact ⟨0, Nat.le_refl 0, rfl, by simp [readDigits]⟩
  | succ limit ih =>
      cases cs with
      | nil => exact ⟨0, Nat.zero_le _, rfl, by simp [readDigits]⟩
      | cons c cs =>
          rw [readDigits]
          cases digit : Text.decimal? c with
          | none => exact ⟨0, Nat.zero_le _, rfl, by simp⟩
          | some d =>
              obtain ⟨k, short, length, bound⟩ := ih cs (10 * n + d)
              have small : d < 10 := (Text.decimal?_eq_some_iff.mp digit).1
              refine ⟨k + 1, Nat.succ_le_succ short, ?_, ?_⟩
              · rw [List.length_cons, ← length]
                rfl
              · calc (readDigits limit cs (10 * n + d)).1
                    < (10 * n + d + 1) * 10 ^ k := bound
                  _ ≤ 10 * (n + 1) * 10 ^ k := Nat.mul_le_mul_right _ (by omega)
                  _ = (n + 1) * 10 ^ (k + 1) := by rw [Nat.pow_succ]; ac_rfl

theorem readFraction_lt {nano : Nat} (h : readFraction cs = some (nano, rest)) :
    nano < 1000000000 := by
  cases cs with
  | nil => cases h
  | cons c cs =>
      rw [readFraction, readNumber] at h
      cases digit : Text.decimal? c with
      | none =>
          rw [digit] at h
          cases h
      | some d =>
          have small : d < 10 := (Text.decimal?_eq_some_iff.mp digit).1
          obtain ⟨k, short, length, bound⟩ := readDigits_lt 8 cs d
          have width : (c :: cs).length - (readDigits 8 cs d).2.length = k + 1 := by
            rw [List.length_cons]
            omega
          simp only [digit, width, Option.some.injEq, Prod.mk.injEq] at h
          obtain ⟨rfl, -⟩ := h
          calc (readDigits 8 cs d).1 * 10 ^ (9 - (k + 1))
              < (d + 1) * 10 ^ k * 10 ^ (9 - (k + 1)) :=
                Nat.mul_lt_mul_of_pos_right bound (Nat.pow_pos (by decide))
            _ = (d + 1) * 10 ^ 8 := by
                rw [Nat.mul_assoc, ← Nat.pow_add]
                congr 2
                omega
            _ ≤ 1000000000 := by omega

theorem readNanos_lt {nano : Nat} (h : readNanos cs = some (nano, rest)) : nano < 1000000000 := by
  unfold readNanos at h
  split at h
  · exact readFraction_lt h
  · cases h
    decide

/-- A leap second is read as the end of a minute. -/
theorem settled_of_readTime {second nano : Nat} (h : readTime cs = some ((second, nano), rest)) :
    1000000000 ≤ nano → second % 60 = 59 := by
  obtain ⟨⟨hour, _⟩, -, h⟩ := Option.bind_eq_some_iff.mp h
  obtain ⟨_, -, h⟩ := Option.bind_eq_some_iff.mp h
  obtain ⟨⟨minute, _⟩, -, h⟩ := Option.bind_eq_some_iff.mp h
  obtain ⟨_, -, h⟩ := Option.bind_eq_some_iff.mp h
  obtain ⟨⟨last, _⟩, -, h⟩ := Option.bind_eq_some_iff.mp h
  obtain ⟨⟨fraction, _⟩, read, h⟩ := Option.bind_eq_some_iff.mp h
  have bound := readNanos_lt read
  intro leap
  simp only at h
  split at h
  · cases h
  · split at h
    · cases h
      omega
    · cases h
      omega

/-- An offset is a number of minutes. -/
theorem readOffset_mod {offset : Int} (h : readOffset cs = some (offset, rest)) :
    offset % 60 = 0 := by
  obtain ⟨⟨hours, _⟩, -, h⟩ := Option.bind_eq_some_iff.mp h
  obtain ⟨⟨minutes, _⟩, -, h⟩ := Option.bind_eq_some_iff.mp h
  simp only at h
  split at h
  · cases h
  · cases h
    omega

theorem readZone_mod {offset : Int} (h : readZone cs = some (offset, rest)) : offset % 60 = 0 := by
  have behind {cs : List Char}
      (h : (readOffset cs).map (fun p => (-p.1, p.2)) = some (offset, rest)) : offset % 60 = 0 := by
    obtain ⟨⟨ahead, _⟩, read, h⟩ := Option.map_eq_some_iff.mp h
    have := readOffset_mod read
    cases h
    omega
  rw [readZone] at h
  split at h
  · cases h
    rfl
  · cases h
    rfl
  · exact readOffset_mod h
  · exact behind h
  · exact behind h
  · split at h
    · cases h
      rfl
    · cases h
  · cases h

theorem settled_of_ofLocal? {date : Date} {second nano : Nat} {offset : Int} {t : Timestamp}
    (time : 1000000000 ≤ nano → second % 60 = 59) (zone : offset % 60 = 0)
    (h : ofLocal? date second nano offset = some t) : t.Settled := by
  rw [ofLocal?] at h
  split at h
  · rw [ofDay?] at h
    split at h
    · cases h
      intro leap
      have := time leap
      simp only
      omega
    · cases h
  · cases h

/-- Whatever is read is settled. -/
theorem settled_of_ofText? {s : String} {t : Timestamp} (h : ofText? s = some t) : t.Settled := by
  obtain ⟨_, -, h⟩ := Option.bind_eq_some_iff.mp h
  obtain ⟨_, -, h⟩ := Option.bind_eq_some_iff.mp h
  obtain ⟨⟨⟨second, nano⟩, _⟩, time, h⟩ := Option.bind_eq_some_iff.mp h
  obtain ⟨⟨offset, _⟩, zone, h⟩ := Option.bind_eq_some_iff.mp h
  simp only at h
  split at h
  · exact settled_of_ofLocal? (settled_of_readTime time) (readZone_mod zone) h
  · cases h

end Reminders.Timestamp
