import Reminders.Text.Blank
import Reminders.Text.Digit

/-!
# Decimal spelling

`Spells` says that decimal digits, with or without leading zeros, spell a number. What is written in
a fixed width and what is written in as few digits as possible are both such spellings, so a reader
of digits has to be understood only once.
-/

namespace Reminders.Text

/-- Decimal digits spell a number, read from the front. -/
inductive Spells : List Char → Nat → Prop where
  | none : Spells [] 0
  | digit {cs : List Char} {n d : Nat} (front : Spells cs n) (small : d < 10) :
      Spells (cs ++ [Nat.digitChar d]) (10 * n + d)

/-- The digits of a fixed width spell what is left of a number in that width. -/
theorem spells_fixedDigits (width n : Nat) :
    Spells (fixedDigits 10 width n) (n % .pow 10 width) := by
  simp only [Nat.pow_eq]
  induction width generalizing n with
  | zero =>
      rw [Nat.pow_zero, Nat.mod_one]
      exact .none
  | succ width ih =>
      have split : n % 10 ^ (width + 1) = 10 * (n / 10 % 10 ^ width) + n % 10 := by
        rw [Nat.pow_succ, Nat.mul_comm, Nat.mod_mul, Nat.add_comm]
      rw [fixedDigits, split]
      exact .digit (ih (n / 10)) (Nat.mod_lt n (by decide))

theorem spells_fixedDigits_of_lt {width n : Nat} (h : n < .pow 10 width) :
    Spells (fixedDigits 10 width n) n := by
  have spells := spells_fixedDigits width n
  rwa [Nat.mod_eq_of_lt h] at spells

theorem spells_toDigits (n : Nat) : Spells (Nat.toDigits 10 n) n := by
  induction n using Nat.strongRecOn with
  | ind n ih =>
      rw [Nat.toDigits_eq_if (by decide)]
      split
      · next small =>
          have spells := Spells.digit .none small
          rwa [Nat.mul_zero, Nat.zero_add] at spells
      · next large =>
          have spells := Spells.digit (ih (n / 10) (by omega)) (Nat.mod_lt n (by decide : 10 > 0))
          rwa [Nat.div_add_mod] at spells

theorem decimal?_eq_some_iff {c : Char} {d : Nat} :
    decimal? c = some d ↔ d < 10 ∧ c = Nat.digitChar d := by
  constructor
  · intro h
    unfold decimal? at h
    split at h
    · next digit =>
        obtain ⟨low, high⟩ : 48 ≤ c.toNat ∧ c.toNat ≤ 57 := digit
        have value : c.toNat - 48 = d := Option.some.inj h
        have small : d < 10 := by omega
        refine ⟨small, Char.toNat_inj.mp ?_⟩
        rw [Nat.toNat_digitChar_of_lt_ten small]
        omega
    · cases h
  · rintro ⟨small, rfl⟩
    exact decimal?_digitChar small

namespace Spells

theorem nil_iff {n : Nat} : Spells [] n ↔ n = 0 := by
  constructor
  · intro h
    generalize empty : ([] : List Char) = cs at h
    cases h with
    | none => rfl
    | digit => simp at empty
  · rintro rfl
    exact .none

/-- The last digit is what a number is spelled by besides the digits before it. -/
theorem concat_iff {cs : List Char} {c : Char} {n : Nat} :
    Spells (cs ++ [c]) n ↔ ∃ m d, Spells cs m ∧ decimal? c = some d ∧ n = 10 * m + d := by
  constructor
  · intro h
    generalize written : cs ++ [c] = ds at h
    cases h with
    | none => simp at written
    | @digit front m d spells small =>
        obtain ⟨rfl, last⟩ := List.append_inj' written rfl
        obtain rfl := List.singleton_inj.mp last
        exact ⟨m, d, spells, decimal?_digitChar small, rfl⟩
  · rintro ⟨m, d, spells, last, rfl⟩
    obtain ⟨small, rfl⟩ := decimal?_eq_some_iff.mp last
    exact .digit spells small

/-- A spelling of at least one digit begins with a digit. -/
theorem exists_cons {cs : List Char} {n : Nat} (h : Spells cs n) (given : cs ≠ []) :
    ∃ d < 10, ∃ ds, cs = Nat.digitChar d :: ds := by
  induction h with
  | none => exact absurd rfl given
  | @digit cs n d front small ih =>
      cases cs with
      | nil => exact ⟨d, small, [], rfl⟩
      | cons c cs =>
          obtain ⟨e, he, ds, first⟩ := ih (List.cons_ne_nil c cs)
          exact ⟨e, he, ds ++ [Nat.digitChar d], by rw [first, List.cons_append]⟩

end Spells

theorem isBlank_digitChar {d : Nat} (h : d < 10) : isBlank (Nat.digitChar d) = false :=
  (by decide : ∀ d : Fin 10, isBlank (Nat.digitChar d) = false) ⟨d, h⟩

end Reminders.Text
