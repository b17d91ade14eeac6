import Mathlib.Data.List.Induction
import Reminders.Proofs.Text.Spelling
import Reminders.Text.Numeral

/-!
# Numerals that are read

A bounded numeral is read from left to right and gives up where the bound is passed. In the end it
is read exactly if it denotes a number within the bound, and then as that number (`read_eq_ok_iff`).
-/

namespace Reminders.Text.Numeral

variable {bound n : Nat} {cs : List Char}

/-- A last digit is read behind those before it. -/
theorem readDigits_concat_eq_ok_iff {c : Char} {start : Nat} :
    readDigits bound (cs ++ [c]) start = .ok n ↔
      ∃ m d, readDigits bound cs start = .ok m ∧ decimal? c = some d ∧ n = 10 * m + d ∧
        n ≤ bound := by
  induction cs generalizing start with
  | nil =>
      rw [List.nil_append, readDigits, readDigits]
      cases decimal? c with
      | none => simp
      | some d =>
          by_cases large : bound < 10 * start + d
          · simp [if_pos large]
            omega
          · simp [if_neg large, readDigits]
            omega
  | cons first cs ih =>
      rw [List.cons_append, readDigits, readDigits]
      split
      · simp
      · split
        · simp
        · exact ih

/-- Digits are read exactly if the number they spell does not exceed the bound. -/
theorem readDigits_eq_ok_iff : readDigits bound cs 0 = .ok n ↔ Spells cs n ∧ n ≤ bound := by
  induction cs using List.reverseRecOn generalizing n with
  | nil =>
      rw [readDigits, Spells.nil_iff, Except.ok.injEq, eq_comm]
      exact ⟨fun zero => ⟨zero, by omega⟩, And.left⟩
  | append_singleton cs c ih =>
      rw [readDigits_concat_eq_ok_iff, Spells.concat_iff]
      constructor
      · rintro ⟨m, d, front, digit, rfl, small⟩
        exact ⟨⟨m, d, (ih.mp front).1, digit, rfl⟩, small⟩
      · rintro ⟨⟨m, d, spells, digit, rfl⟩, small⟩
        exact ⟨m, d, ih.mpr ⟨spells, by omega⟩, digit, rfl, small⟩

/-- A text denotes a number below a bound: it consists of decimal digits that spell the number, with
a plus sign in front or none. -/
structure Denotes (bound : Nat) (cs : List Char) (n : Nat) : Prop where
  written : ∃ digits, (cs = digits ∨ cs = '+' :: digits) ∧ digits ≠ [] ∧ Spells digits n
  bounded : n ≤ bound

/-- A plus sign is none of the digits. -/
theorem denotes_plus_iff : Denotes bound ('+' :: cs) n ↔ cs ≠ [] ∧ Spells cs n ∧ n ≤ bound := by
  constructor
  · rintro ⟨⟨digits, rfl | same, given, spells⟩, bounded⟩
    · obtain ⟨d, small, ds, plus⟩ := spells.exists_cons given
      exact absurd (List.cons.inj plus).1
        ((by decide : ∀ d : Fin 10, '+' ≠ Nat.digitChar d) ⟨d, small⟩)
    · obtain rfl := (List.cons.inj same).2
      exact ⟨given, spells, bounded⟩
  · rintro ⟨given, spells, bounded⟩
    exact ⟨⟨cs, .inr rfl, given, spells⟩, bounded⟩

theorem denotes_iff_of_unsigned (unsigned : ∀ rest, cs ≠ '+' :: rest) :
    Denotes bound cs n ↔ cs ≠ [] ∧ Spells cs n ∧ n ≤ bound := by
  constructor
  · rintro ⟨⟨digits, rfl | signed, given, spells⟩, bounded⟩
    · exact ⟨given, spells, bounded⟩
    · exact absurd signed (unsigned digits)
  · rintro ⟨given, spells, bounded⟩
    exact ⟨⟨cs, .inl rfl, given, spells⟩, bounded⟩

/-- A numeral is read as the number that it denotes, and nothing else is read. -/
theorem read_eq_ok_iff : read bound cs = .ok n ↔ Denotes bound cs n := by
  unfold read
  split
  · simp [denotes_iff_of_unsigned]
  · simp [denotes_plus_iff]
  · next alone => simpa [denotes_plus_iff, readDigits_eq_ok_iff] using fun _ _ => alone
  · next given _ unsigned => simpa [denotes_iff_of_unsigned unsigned, readDigits_eq_ok_iff] using
      fun _ _ => given

end Reminders.Text.Numeral
