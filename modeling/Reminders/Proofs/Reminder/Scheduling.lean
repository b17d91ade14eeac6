import Reminders.Reminder.Basic

/-!
# Which reminders are scheduled

A title and a time are acceptable, or there is a first reason why they are not. What a refused
reminder is told is that reason, and a reminder that is scheduled has the trimmed title and the time
of scheduling. In short, it is `Sound`.

The title counts as trimming leaves it, so blank characters around it make no difference, and a
reminder that is scheduled could be scheduled with its own title (`schedule_judges_trimming`).
-/

namespace Reminders.Reminder

open Text (isBlank trimmed IsTrimming)

variable {id : Uuid} {user : UserId} {title : String} {remindAt now : Timestamp}

/-- The first reason why a title and a time are not accepted at the time `now`. -/
inductive Unacceptable (title : String) (remindAt now : Timestamp) : Refusal → Prop where
  | blank (blank : trimmed title = "") : Unacceptable title remindAt now .blankTitle
  | long (given : trimmed title ≠ "") (long : maxTitleChars < (trimmed title).length) :
      Unacceptable title remindAt now .longTitle
  | due (given : trimmed title ≠ "") (short : (trimmed title).length ≤ maxTitleChars)
      (due : remindAt ≤ now) : Unacceptable title remindAt now (.notFuture remindAt now)

theorem Acceptable.not_unacceptable {refusal : Refusal} (h : Acceptable title remindAt now) :
    ¬Unacceptable title remindAt now refusal := by
  obtain ⟨given, short, future⟩ := h
  intro unacceptable
  cases unacceptable with
  | blank blank => exact given blank
  | long _ long => exact absurd long (Nat.not_lt.mpr short)
  | due _ _ due => exact Timestamp.not_le.mpr future due

theorem acceptable_or_unacceptable (title : String) (remindAt now : Timestamp) :
    Acceptable title remindAt now ∨ ∃ refusal, Unacceptable title remindAt now refusal := by
  by_cases blank : trimmed title = ""
  · exact .inr ⟨_, .blank blank⟩
  by_cases long : maxTitleChars < (trimmed title).length
  · exact .inr ⟨_, .long blank long⟩
  have short := Nat.not_lt.mp long
  by_cases due : remindAt ≤ now
  · exact .inr ⟨_, .due blank short due⟩
  · exact .inl ⟨blank, short, Timestamp.not_le.mp due⟩

theorem schedule_of_unacceptable {refusal : Refusal} (h : Unacceptable title remindAt now refusal)
    (id : Uuid) (user : UserId) : schedule id user title remindAt now = .error refusal := by
  cases h with
  | blank blank => simp [schedule, blank]
  | long given long => simp [schedule, given, long]
  | due given short due => simp [schedule, given, Nat.not_lt.mpr short, due]

theorem schedule_eq_ok_iff {reminder : Reminder} :
    schedule id user title remindAt now = .ok reminder ↔
      Acceptable title remindAt now ∧ reminder = ⟨id, user, trimmed title, remindAt, now⟩ := by
  obtain acceptable | ⟨refusal, unacceptable⟩ := acceptable_or_unacceptable title remindAt now
  · rw [schedule_of_acceptable acceptable, Except.ok.injEq, eq_comm]
    simp [acceptable]
  · rw [schedule_of_unacceptable unacceptable]
    constructor
    · nofun
    · rintro ⟨acceptable, -⟩
      exact absurd unacceptable acceptable.not_unacceptable

theorem schedule_eq_error_iff {refusal : Refusal} :
    schedule id user title remindAt now = .error refusal ↔
      Unacceptable title remindAt now refusal := by
  constructor
  · intro refused
    obtain acceptable | ⟨refusal', unacceptable⟩ := acceptable_or_unacceptable title remindAt now
    · cases (schedule_of_acceptable acceptable id user).symm.trans refused
    · cases (schedule_of_unacceptable unacceptable id user).symm.trans refused
      exact unacceptable
  · intro unacceptable
    exact schedule_of_unacceptable unacceptable id user

/-- A reminder with a proper title, which becomes due after it was scheduled. -/
structure Sound (reminder : Reminder) : Prop where
  titled : reminder.title ≠ ""
  short : reminder.title.length ≤ maxTitleChars
  /-- The title begins with no blank character. -/
  begins : ∀ c ∈ reminder.title.toList.head?, isBlank c = false
  /-- The title ends with no blank character. -/
  ends : ∀ c ∈ reminder.title.toList.getLast?, isBlank c = false
  future : reminder.createdAt < reminder.remindAt

theorem sound_of_schedule {reminder : Reminder}
    (scheduled : schedule id user title remindAt now = .ok reminder) : reminder.Sound := by
  obtain ⟨⟨given, short, future⟩, rfl⟩ := schedule_eq_ok_iff.mp scheduled
  refine ⟨given, short, ?_, ?_, future⟩
  · intro c hc
    rw [Text.toList_trimmed] at hc
    exact Text.isBlank_of_mem_head?_trim hc
  · intro c hc
    rw [Text.toList_trimmed] at hc
    exact Text.isBlank_of_mem_getLast?_trim hc

theorem schedule_surrounded {front back : String} (hfront : ∀ c ∈ front.toList, isBlank c = true)
    (hback : ∀ c ∈ back.toList, isBlank c = true) (id : Uuid) (user : UserId) (title : String)
    (remindAt now : Timestamp) :
    schedule id user (front ++ title ++ back) remindAt now =
      schedule id user title remindAt now := by
  simp only [schedule, Text.trimmed_append_of_blank hfront hback]

theorem schedule_again {reminder : Reminder}
    (scheduled : schedule id user title remindAt now = .ok reminder) :
    schedule id user reminder.title remindAt now = .ok reminder := by
  obtain ⟨acceptable, rfl⟩ := schedule_eq_ok_iff.mp scheduled
  rw [schedule_eq_ok_iff, Acceptable, Text.trimmed_trimmed]
  exact ⟨acceptable, rfl⟩

theorem unacceptable_iff {refusal : Refusal} :
    Unacceptable title remindAt now refusal ↔
      (trimmed title = "" ∧ refusal = .blankTitle) ∨
      (trimmed title ≠ "" ∧ maxTitleChars < (trimmed title).length ∧ refusal = .longTitle) ∨
      (trimmed title ≠ "" ∧ (trimmed title).length ≤ maxTitleChars ∧ remindAt ≤ now ∧
        refusal = .notFuture remindAt now) := by
  constructor
  · rintro (blank | ⟨given, long⟩ | ⟨given, short, due⟩)
    · exact .inl ⟨blank, rfl⟩
    · exact .inr (.inl ⟨given, long, rfl⟩)
    · exact .inr (.inr ⟨given, short, due, rfl⟩)
  · rintro (⟨blank, rfl⟩ | ⟨given, long, rfl⟩ | ⟨given, short, due, rfl⟩)
    · exact .blank blank
    · exact .long given long
    · exact .due given short due

/-- What trimming leaves of a title is what counts. A reminder is scheduled exactly if something is
left, it has no more than 200 characters, and the reminder becomes due later than now. It gets the
trimmed title and is created now. Otherwise the validation fails, and tells the first of these that
does not hold. Blank characters around a title make no difference, and the title of a reminder may
stand for the one that it was scheduled with. -/
theorem schedule_judges_trimming (id : Uuid) (user : UserId) (title : String)
    (remindAt now : Timestamp) :
    ∃ core : String, IsTrimming title.toList core.toList ∧
      (∀ reminder, schedule id user title remindAt now = .ok reminder ↔
        (core ≠ "" ∧ core.length ≤ 200 ∧ now.Precedes remindAt) ∧
          reminder = ⟨id, user, core, remindAt, now⟩) ∧
      (∀ refusal, schedule id user title remindAt now = .error refusal ↔
        (core = "" ∧ refusal = .blankTitle) ∨
        (core ≠ "" ∧ 200 < core.length ∧ refusal = .longTitle) ∨
        (core ≠ "" ∧ core.length ≤ 200 ∧ ¬ now.Precedes remindAt ∧
          refusal = .notFuture remindAt now)) ∧
      (∀ refusal, schedule id user title remindAt now = .error refusal →
        refusal.failure = .validation refusal.message) ∧
      (∀ front back : String, (∀ c ∈ front.toList, isBlank c = true) →
        (∀ c ∈ back.toList, isBlank c = true) →
        schedule id user (front ++ title ++ back) remindAt now =
          schedule id user title remindAt now) ∧
      ∀ reminder, schedule id user title remindAt now = .ok reminder →
        schedule id user reminder.title remindAt now = .ok reminder := by
  refine ⟨trimmed title, ?_, ?_, ?_, ?_, ?_, ?_⟩
  · rw [Text.toList_trimmed]
    exact Text.isTrimming_trim title.toList
  · intro reminder
    rw [← Timestamp.lt_iff_precedes]
    exact schedule_eq_ok_iff
  · intro refusal
    rw [schedule_eq_error_iff, unacceptable_iff, ← Timestamp.lt_iff_precedes, Timestamp.not_lt]
    rfl
  · exact fun refusal _ => refusal.failure_eq
  · exact fun front back hfront hback => schedule_surrounded hfront hback id user title remindAt now
  · exact fun reminder => schedule_again

/-- The last nanosecond before a leap second at the end of a day. -/
def beforeLeap : Timestamp :=
  { Timestamp.epoch with
    second := 86399
    nano := 999999999
    second_lt := by decide
    nano_lt := by decide }

/-- The beginning of that leap second. -/
def leap : Timestamp :=
  { beforeLeap with nano := 1000000000, nano_lt := by decide }

/-- A reminder that becomes due with a leap second, scheduled at the last moment before it. The
blank character inside its title stays. -/
theorem schedule_before_leap :
    schedule ⟨1⟩ ⟨⟨2⟩⟩ ("\u3000" ++ "new year\u2003now" ++ " \n") leap beforeLeap =
      .ok ⟨⟨1⟩, ⟨⟨2⟩⟩, "new year\u2003now", leap, beforeLeap⟩ := by
  obtain ⟨core, left, ok_iff, -, -, surrounded, -⟩ :=
    schedule_judges_trimming ⟨1⟩ ⟨⟨2⟩⟩ "new year\u2003now" leap beforeLeap
  have whole : core = "new year\u2003now" := by
    rw [← String.toList_inj, ← Text.trim_eq_iff.mpr left]
    decide +kernel
  have front : ∀ c ∈ "\u3000".toList, isBlank c = true := by simp [isBlank]
  have back : ∀ c ∈ " \n".toList, isBlank c = true := by simp [isBlank]
  rw [surrounded _ _ front back]
  subst whole
  exact (ok_iff _).mpr ⟨⟨by decide, by decide, .nano rfl rfl (by decide)⟩, rfl⟩

end Reminders.Reminder
