import Reminders.Proofs.Consumer.Resolution
import Reminders.Reminder.Handling

/-!
# Names of the consumers of reminders

The consumer that keeps reminders in a version of the API has a name if the version is well formed,
and the name then tells the version in its normal form: two versions have one name exactly if they
have one normal form.
-/

namespace Reminders.Reminder

open Consumer (Name Pattern Piece Segment)
open Consumer.Version
open Text (isBlank trim splitOn splitOn_ne_nil join)

/-- A name tells the components of a version, the zeros at their end apart. -/
def Names (version text : String) : Prop :=
  ∃ kept, Normal (splitOn '.' (trim version.toList)) kept ∧
    text = "Reminder_v" ++ String.ofList (join '_' kept) ++ "_ReminderSet"

/-- The name of the consumer that keeps reminders in a version of the API. -/
def consumerText (version : String) : String :=
  "Reminder_v" ++ String.ofList (join '_' (normal version)) ++ "_ReminderSet"

theorem names_iff {version text : String} : Names version text ↔ text = consumerText version := by
  simp only [Names, ← normalForm_eq_iff (splitOn_ne_nil _ _), exists_eq_left', consumerText, normal]

instance (version text : String) : Decidable (Names version text) :=
  decidable_of_iff (text = consumerText version) names_iff.symm

theorem parse_pattern :
    Pattern.parse declaration.pattern = .ok ⟨declaration.pattern, [.placeholder .controller,
      .literal ['_', 'v'], .placeholder .version, .literal ['_'], .placeholder .action]⟩ := by
  have scanned : Piece.scan 0 declaration.pattern.toList =
      .ok [.placeholder .controller, .plain '_', .plain 'v', .placeholder .version, .plain '_',
        .placeholder .action] := by
    refine Piece.scan_eq_ok_iff.mpr ⟨by decide, ?_⟩
    simp [Piece.Proper, Consumer.isBracket, Consumer.closing?, Consumer.isClosing]
  exact Pattern.parse_eq_ok_iff.mpr ⟨by decide, _, scanned, rfl⟩

/-- What stands for a version decides about the name of the consumer. -/
theorem consumer_eq (version : String) :
    consumer version = (do
      let text ← format version
      Name.ofText (String.ofList ("Reminder_v".toList ++ text ++ "_ReminderSet".toList))) := by
  have base : Consumer.baseName "ReminderEventController" = .ok "Reminder".toList := by decide
  have action : setAction ≠ "" := by decide
  have front : "Reminder_v".toList = "Reminder".toList ++ ['_', 'v'] := by decide
  have rear : "_ReminderSet".toList = '_' :: setAction.toList := by decide
  rw [consumer, Consumer.Declaration.resolve, Consumer.resolve, parse_pattern]
  show Pattern.resolve _ ⟨"ReminderEventController", some setAction, some version⟩ = _
  simp only [Pattern.resolve, Segment.values, Segment.value, Consumer.Placeholder.value, base,
    if_neg action]
  cases format version with
  | error fault => rfl
  | ok text =>
      simp only [bind, Except.bind, pure, Except.pure, front, rear, List.append_nil,
        List.append_assoc, List.cons_append, List.nil_append]

theorem consumer_of_wellFormed {version : String} (h : WellFormed version) :
    consumer version = Name.ofText (consumerText version) := by
  have text : String.ofList ("Reminder_v".toList ++ join '_' (normal version) ++
      "_ReminderSet".toList) = consumerText version := by
    rw [← String.toList_inj]
    simp [consumerText]
  rw [consumer_eq, format_of_wellFormed h, ← text, normal]
  simp only [bind, Except.bind]

theorem consumer_of_not_wellFormed {version : String} (h : ¬ WellFormed version) :
    consumer version = .error
      (if trim version.toList = [] then .emptyVersion else .malformedVersion version) := by
  rw [consumer_eq, format_of_not_wellFormed h]
  rfl

theorem consumer_eq_ok_iff {version : String} {name : Name} :
    consumer version = .ok name ↔ WellFormed version ∧ name.text = consumerText version := by
  by_cases h : WellFormed version
  · rw [consumer_of_wellFormed h]
    constructor
    · exact fun named => ⟨h, Name.text_of_ofText named⟩
    · rintro ⟨-, text⟩
      rw [← text, Name.ofText_text]
  · rw [consumer_of_not_wellFormed h]
    constructor
    · nofun
    · rintro ⟨wellFormed, -⟩
      exact absurd wellFormed h

/-- A version that is well formed has a consumer. -/
theorem exists_consumer {version : String} (h : WellFormed version) :
    ∃ name, consumer version = .ok name := by
  have dark : (consumerText version).toList.any isBlank = false := by
    have body := not_isBlank_of_mem_format (format_of_wellFormed h)
    have front : "Reminder_v".toList.any isBlank = false := by decide
    have rear : "_ReminderSet".toList.any isBlank = false := by decide
    simp only [consumerText, String.toList_append, String.toList_ofList, List.any_append, front,
      rear, Bool.false_or, Bool.or_false, List.any_eq_false, Bool.not_eq_true]
    exact body
  have nonempty : consumerText version ≠ "" := by
    intro empty
    have length := congrArg String.length empty
    simp [consumerText] at length
  exact ⟨⟨_, nonempty, dark⟩, consumer_eq_ok_iff.mpr ⟨h, rfl⟩⟩

theorem consumerText_eq_iff {version version' : String} (h : WellFormed version)
    (h' : WellFormed version') :
    consumerText version = consumerText version' ↔ Alike version version' := by
  rw [alike_iff, ← join_normal_inj h h', consumerText, consumerText, ← String.toList_inj]
  simp

end Reminders.Reminder
