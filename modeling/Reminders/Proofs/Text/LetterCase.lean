import Mathlib.Data.List.Induction
import Reminders.Text.Digit

/-!
# Letters of either case

Hexadecimal digits may be capital letters. `SpellsHex` says which number a text of such digits
spells, by the digits that the number is written with: the text becomes those digits when its
letters are made small. This is how digits are read (`hexNumber?_eq_some_iff`).
-/

namespace Reminders.Text

variable {cs : List Char} {n : Nat}

/-- Capital letters are taken to the small ones, 32 places further on, and nothing else is moved. -/
theorem toNat_toLower (c : Char) :
    c.toLower.toNat = if 65 ≤ c.toNat ∧ c.toNat ≤ 90 then c.toNat + 32 else c.toNat := by
  unfold Char.toLower
  split
  · next capital =>
      have capital : 65 ≤ c.toNat ∧ c.toNat ≤ 90 := capital
      rw [if_pos capital]
      show (c.val + 32).toNat = _
      rw [UInt32.toNat_add]
      show (c.toNat + 32) % 4294967296 = _
      omega
  · next other =>
      have other : ¬(65 ≤ c.toNat ∧ c.toNat ≤ 90) := other
      rw [if_neg other]

theorem toNat_digitChar {d : Nat} (h : d < 16) :
    (Nat.digitChar d).toNat = if d < 10 then 48 + d else 87 + d :=
  (by decide : ∀ d : Fin 16,
    (Nat.digitChar d).toNat = if d.val < 10 then 48 + d.val else 87 + d.val) ⟨d, h⟩

/-- The hexadecimal digits are the small ones and those that become small ones. -/
theorem hexadecimal?_eq_some_iff {c : Char} {d : Nat} :
    hexadecimal? c = some d ↔ d < 16 ∧ c.toLower = Nat.digitChar d := by
  have value : hexadecimal? c =
      if 48 ≤ c.toNat ∧ c.toNat ≤ 57 then some (c.toNat - 48)
      else if 97 ≤ c.toNat ∧ c.toNat ≤ 102 then some (c.toNat - 97 + 10)
      else if 65 ≤ c.toNat ∧ c.toNat ≤ 70 then some (c.toNat - 65 + 10)
      else none := rfl
  rw [value, ← Char.toNat_inj, toNat_toLower]
  constructor
  · intro h
    have small : d < 16 := by grind
    rw [toNat_digitChar small]
    exact ⟨small, by grind⟩
  · rintro ⟨small, lower⟩
    rw [toNat_digitChar small] at lower
    grind

/-- A text spells a number in hexadecimal: it consists of the digits of the number, in the width of
the text and in letters of either case. -/
structure SpellsHex (cs : List Char) (n : Nat) : Prop where
  digits : cs.map Char.toLower = fixedDigits 16 cs.length n
  fits : n < .pow 16 cs.length

namespace SpellsHex

theorem nil_iff : SpellsHex [] n ↔ n = 0 := by
  constructor
  · rintro ⟨-, fits⟩
    exact Nat.lt_one_iff.mp fits
  · rintro rfl
    exact ⟨rfl, Nat.one_pos⟩

/-- The last digit of a spelling is that of the number. -/
theorem concat_iff {c : Char} :
    SpellsHex (cs ++ [c]) n ↔ SpellsHex cs (n / 16) ∧ c.toLower = Nat.digitChar (n % 16) := by
  have width : Nat.pow 16 (cs ++ [c]).length = Nat.pow 16 cs.length * 16 := by
    rw [List.length_append]
    rfl
  have fits_iff : n < .pow 16 (cs ++ [c]).length ↔ n / 16 < .pow 16 cs.length := by
    rw [width, Nat.div_lt_iff_lt_mul (by decide)]
  have digits_iff : (cs ++ [c]).map Char.toLower = fixedDigits 16 (cs ++ [c]).length n ↔
      cs.map Char.toLower = fixedDigits 16 cs.length (n / 16) ∧
        c.toLower = Nat.digitChar (n % 16) := by
    rw [List.map_append, List.length_append, List.length_singleton, fixedDigits]
    constructor
    · intro same
      obtain ⟨front, last⟩ := List.append_inj' same rfl
      exact ⟨front, List.singleton_inj.mp last⟩
    · rintro ⟨front, last⟩
      rw [front, List.map_singleton, last]
  constructor
  · rintro ⟨digits, fits⟩
    obtain ⟨front, last⟩ := digits_iff.mp digits
    exact ⟨⟨front, fits_iff.mp fits⟩, last⟩
  · rintro ⟨⟨front, fits⟩, last⟩
    exact ⟨digits_iff.mpr ⟨front, last⟩, fits_iff.mpr fits⟩

theorem lt_of_length_le {width : Nat} (h : SpellsHex cs n) (short : cs.length ≤ width) :
    n < .pow 16 width :=
  Nat.lt_of_lt_of_le h.fits (Nat.pow_le_pow_right (by decide) short)

end SpellsHex

/-- Hexadecimal digits are read as the number that they spell. -/
theorem hexNumber?_eq_some_iff : hexNumber? cs 0 = some n ↔ SpellsHex cs n := by
  induction cs using List.reverseRecOn generalizing n with
  | nil => rw [hexNumber?, SpellsHex.nil_iff, Option.some.injEq, eq_comm]
  | append_singleton cs c ih =>
      have last {m : Nat} :
          hexNumber? [c] m = some n ↔ ∃ d, hexadecimal? c = some d ∧ n = 16 * m + d := by
        rw [hexNumber?]
        cases hexadecimal? c with
        | none => simp
        | some d => simp [hexNumber?, eq_comm]
      rw [hexNumber?_append, Option.bind_eq_some_iff, SpellsHex.concat_iff]
      simp only [ih, last, hexadecimal?_eq_some_iff]
      constructor
      · rintro ⟨m, front, d, ⟨small, digit⟩, rfl⟩
        have high : (16 * m + d) / 16 = m := by omega
        have low : (16 * m + d) % 16 = d := by omega
        rw [high, low]
        exact ⟨front, digit⟩
      · rintro ⟨front, digit⟩
        exact ⟨n / 16, front, n % 16, ⟨Nat.mod_lt n (by decide), digit⟩,
          (Nat.div_add_mod n 16).symm⟩

end Reminders.Text
