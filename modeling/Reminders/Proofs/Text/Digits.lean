import Mathlib.Data.List.Basic
import Mathlib.Data.List.Induction
import Reminders.Proofs.Text.LetterCase
import Reminders.Proofs.Text.Spelling

/-!
# Digits at the front of a text

Digits are read off the front of a text as long as there are any (`spanDigits_eq_iff`), and what
they come to is the number that they spell, in decimal (`spells_iff_exists_values`) as in
hexadecimal (`spellsHex_iff_exists_values`). Of the decimal spellings of a number one has no
needless zeros, and that is the one which is written (`eq_toDigits_iff`).
-/

namespace Reminders.Text

variable {digit? : Char → Option Nat} {c : Char} {cs rest : List Char} {ds : List Nat} {n d : Nat}

/-- A text does not go on with a digit. -/
def Stops (digit? : Char → Option Nat) (rest : List Char) : Prop :=
  ∀ c ∈ rest.head?, digit? c = none

theorem stops_nil : Stops digit? [] := nofun

theorem stops_cons_iff : Stops digit? (c :: rest) ↔ digit? c = none := by
  simp [Stops]

theorem exists_append_spanDigits (digit? : Char → Option Nat) (cs : List Char) :
    ∃ front, cs = front ++ (spanDigits digit? cs).2 ∧
      front.map digit? = (spanDigits digit? cs).1.map some ∧
        Stops digit? (spanDigits digit? cs).2 := by
  induction cs with
  | nil => exact ⟨[], rfl, rfl, stops_nil⟩
  | cons c cs ih =>
      rw [spanDigits]
      cases digit : digit? c with
      | none => exact ⟨[], rfl, rfl, stops_cons_iff.mpr digit⟩
      | some d =>
          obtain ⟨front, split, values, stops⟩ := ih
          refine ⟨c :: front, congrArg (c :: ·) split, ?_, stops⟩
          rw [List.map_cons, List.map_cons, digit, values]

theorem spanDigits_append {front : List Char} (values : front.map digit? = ds.map some)
    (stops : Stops digit? rest) : spanDigits digit? (front ++ rest) = (ds, rest) := by
  induction front generalizing ds with
  | nil =>
      rw [List.map_eq_nil_iff.mp values.symm]
      cases rest with
      | nil => rfl
      | cons c rest => rw [List.nil_append, spanDigits, stops_cons_iff.mp stops]
  | cons c front ih =>
      cases ds with
      | nil => cases values
      | cons d ds =>
          obtain ⟨digit, values⟩ := List.cons.inj values
          rw [List.cons_append, spanDigits, digit, ih values]

/-- Digits are read up to the first character that is none. -/
theorem spanDigits_eq_iff :
    spanDigits digit? cs = (ds, rest) ↔
      ∃ front, cs = front ++ rest ∧ front.map digit? = ds.map some ∧ Stops digit? rest := by
  constructor
  · intro read
    have spec := exists_append_spanDigits digit? cs
    rwa [read] at spec
  · rintro ⟨front, rfl, values, stops⟩
    exact spanDigits_append values stops

theorem ofDigits_concat (base : Nat) (ds : List Nat) (d : Nat) :
    ofDigits base (ds ++ [d]) = base * ofDigits base ds + d := by
  simp [ofDigits]

/-- The values of the last digit and of those before it. -/
theorem map_concat_eq_iff :
    (cs ++ [c]).map digit? = ds.map some ↔
      ∃ ds' d, ds = ds' ++ [d] ∧ cs.map digit? = ds'.map some ∧ digit? c = some d := by
  rw [List.map_append, List.map_singleton, eq_comm, List.map_eq_append_iff]
  constructor
  · rintro ⟨ds', last, rfl, front, values⟩
    obtain ⟨d, rfl, value⟩ := List.map_eq_singleton_iff.mp values
    exact ⟨ds', d, rfl, front.symm, value.symm⟩
  · rintro ⟨ds', d, rfl, front, value⟩
    exact ⟨ds', [d], rfl, front.symm, by rw [List.map_singleton, value]⟩

theorem not_mem_of_values (values : cs.map digit? = ds.map some) (other : digit? c = none) :
    c ∉ cs := by
  intro mem
  have value : digit? c ∈ cs.map digit? := List.mem_map_of_mem mem
  rw [values, other, List.mem_map] at value
  obtain ⟨d, -, digit⟩ := value
  cases digit

theorem length_of_values (values : cs.map digit? = ds.map some) : cs.length = ds.length := by
  have lengths := congrArg List.length values
  rwa [List.length_map, List.length_map] at lengths

theorem ne_nil_iff_of_values (values : cs.map digit? = ds.map some) : cs ≠ [] ↔ ds ≠ [] := by
  rw [← List.length_pos_iff, length_of_values values, List.length_pos_iff]

/-- No digits come to zero. -/
theorem exists_values_nil_iff {base : Nat} :
    (∃ ds, [].map digit? = ds.map some ∧ ofDigits base ds = n) ↔ n = 0 := by
  constructor
  · rintro ⟨ds, values, rfl⟩
    rw [List.map_eq_nil_iff.mp values.symm]
    rfl
  · rintro rfl
    exact ⟨[], rfl, rfl⟩

/-- Decimal digits come to the number that they spell. -/
theorem spells_iff_exists_values :
    Spells cs n ↔ ∃ ds, cs.map decimal? = ds.map some ∧ ofDigits 10 ds = n := by
  induction cs using List.reverseRecOn generalizing n with
  | nil => rw [Spells.nil_iff, exists_values_nil_iff]
  | append_singleton cs c ih =>
      simp only [Spells.concat_iff, map_concat_eq_iff, ih]
      constructor
      · rintro ⟨_, d, ⟨ds, front, rfl⟩, last, rfl⟩
        exact ⟨ds ++ [d], ⟨ds, d, rfl, front, last⟩, ofDigits_concat 10 ds d⟩
      · rintro ⟨_, ⟨ds, d, rfl, front, last⟩, rfl⟩
        exact ⟨_, d, ⟨ds, front, rfl⟩, last, ofDigits_concat 10 ds d⟩

theorem Spells.unique {m : Nat} (h : Spells cs n) (h' : Spells cs m) : n = m := by
  obtain ⟨ds, values, rfl⟩ := spells_iff_exists_values.mp h
  obtain ⟨ds', values', rfl⟩ := spells_iff_exists_values.mp h'
  rw [(List.map_inj_right fun _ _ => Option.some.inj).mp (values.symm.trans values')]

theorem spellsHex_iff_exists_values :
    SpellsHex cs n ↔ ∃ ds, cs.map hexadecimal? = ds.map some ∧ ofDigits 16 ds = n := by
  induction cs using List.reverseRecOn generalizing n with
  | nil => rw [SpellsHex.nil_iff, exists_values_nil_iff]
  | append_singleton cs c ih =>
      simp only [SpellsHex.concat_iff, map_concat_eq_iff, ih, hexadecimal?_eq_some_iff]
      constructor
      · rintro ⟨⟨ds, front, high⟩, low⟩
        have small : n % 16 < 16 := Nat.mod_lt n (by decide)
        refine ⟨ds ++ [n % 16], ⟨ds, n % 16, rfl, front, small, low⟩, ?_⟩
        rw [ofDigits_concat, high, Nat.div_add_mod]
      · rintro ⟨_, ⟨ds, d, rfl, front, small, low⟩, rfl⟩
        rw [ofDigits_concat]
        have high : (16 * ofDigits 16 ds + d) / 16 = ofDigits 16 ds := by omega
        have rest : (16 * ofDigits 16 ds + d) % 16 = d := by omega
        rw [high, rest]
        exact ⟨⟨ds, front, rfl⟩, low⟩

theorem digitChar_eq_zero_iff (h : d < 10) : Nat.digitChar d = '0' ↔ d = 0 :=
  (by decide : ∀ d : Fin 10, Nat.digitChar d = '0' ↔ d.val = 0) ⟨d, h⟩

theorem eq_zero_of_head?_toDigits (h : (Nat.toDigits 10 n).head? = some '0') : n = 0 := by
  induction n using Nat.strongRecOn with
  | ind n ih =>
      rw [Nat.toDigits_eq_if (by decide)] at h
      split at h
      · next small => exact (digitChar_eq_zero_iff small).mp (Option.some.inj h)
      · next large =>
          rw [List.head?_append_of_ne_nil _ Nat.toDigits_ne_nil] at h
          have zero := ih (n / 10) (by omega) h
          omega

/-- What is written for a number is its only spelling without needless zeros. -/
theorem eq_toDigits_iff :
    cs = Nat.toDigits 10 n ↔ cs ≠ [] ∧ Spells cs n ∧ (1 < cs.length → cs.head? ≠ some '0') := by
  constructor
  · rintro rfl
    refine ⟨Nat.toDigits_ne_nil, spells_toDigits n, ?_⟩
    intro long zero
    rw [eq_zero_of_head?_toDigits zero] at long
    exact absurd long (by decide)
  · rintro ⟨nonempty, spells, short⟩
    induction cs using List.reverseRecOn generalizing n with
    | nil => exact absurd rfl nonempty
    | append_singleton cs c ih =>
        obtain ⟨m, d, front, last, rfl⟩ := Spells.concat_iff.mp spells
        obtain ⟨small, rfl⟩ := decimal?_eq_some_iff.mp last
        by_cases only : cs = []
        · subst only
          rw [Spells.nil_iff.mp front, Nat.mul_zero, Nat.zero_add, Nat.toDigits_of_lt_base small]
          rfl
        · have head : cs.head? ≠ some '0' := by
            have long : 1 < (cs ++ [Nat.digitChar d]).length := by
              rw [List.length_append, List.length_singleton]
              exact Nat.succ_lt_succ (List.length_pos_of_ne_nil only)
            have head := short long
            rwa [List.head?_append_of_ne_nil _ only] at head
          have written := ih only front fun _ => head
          have positive : 0 < m := by
            rw [Nat.pos_iff_ne_zero]
            rintro rfl
            rw [written] at head
            exact head rfl
          rw [written, ← Nat.toDigits_of_lt_base small,
            Nat.toDigits_append_toDigits (by decide) positive small]

theorem head?_eq_zero_iff (values : cs.map decimal? = ds.map some) :
    cs.head? = some '0' ↔ ds.head? = some 0 := by
  match cs, ds, values with
  | [], [], _ => simp
  | c :: cs, d :: ds, values =>
      obtain ⟨small, rfl⟩ := decimal?_eq_some_iff.mp (List.cons.inj values).1
      simp [digitChar_eq_zero_iff small]

/-- What is written for a number, told by the values of the digits. -/
theorem eq_toDigits_iff_of_values (values : cs.map decimal? = ds.map some) :
    cs = Nat.toDigits 10 (ofDigits 10 ds) ↔ ds ≠ [] ∧ (1 < ds.length → ds.head? ≠ some 0) := by
  rw [eq_toDigits_iff, ne_nil_iff_of_values values, length_of_values values, ne_eq (cs.head?),
    head?_eq_zero_iff values]
  have spells : Spells cs (ofDigits 10 ds) := spells_iff_exists_values.mpr ⟨ds, values, rfl⟩
  simp only [spells, true_and]

end Reminders.Text
