/-!
# Digits

Decimal and hexadecimal digits, their values, and numerals of a fixed width or below a bound. The
main statements are that the digits of a fixed width spell the number they were written from, up to
that width (`hexNumber?_fixedDigits`), and that a number is read below a bound exactly if it does
not exceed it (`ofDigitsUpTo?_eq`).
-/

namespace Reminders.Text

def decimal? (c : Char) : Option Nat :=
  if '0' ≤ c ∧ c ≤ '9' then some (c.toNat - '0'.toNat) else none

/-- The value of a hexadecimal digit of either case. -/
def hexadecimal? (c : Char) : Option Nat :=
  if '0' ≤ c ∧ c ≤ '9' then some (c.toNat - '0'.toNat)
  else if 'a' ≤ c ∧ c ≤ 'f' then some (c.toNat - 'a'.toNat + 10)
  else if 'A' ≤ c ∧ c ≤ 'F' then some (c.toNat - 'A'.toNat + 10)
  else none

/-- The number that hexadecimal digits spell after those already read into `n`. -/
def hexNumber? : List Char → Nat → Option Nat
  | [], n => some n
  | c :: cs, n =>
      match hexadecimal? c with
      | some d => hexNumber? cs (16 * n + d)
      | none => none

/-- Reads all digits at the front of a text into their values. -/
def spanDigits (digit? : Char → Option Nat) : List Char → List Nat × List Char
  | [] => ([], [])
  | c :: cs =>
      match digit? c with
      | some d =>
          let (ds, rest) := spanDigits digit? cs
          (d :: ds, rest)
      | none => ([], c :: cs)

/-- The number that digits spell in a base. -/
def ofDigits (base : Nat) (ds : List Nat) : Nat := ds.foldl (fun n d => base * n + d) 0

/-- The number that digits spell in a base, if it does not exceed a bound. Reading stops where the
bound is passed. -/
def ofDigitsUpTo? (base bound : Nat) (ds : List Nat) : Option Nat :=
  ds.foldlM (fun n d => if bound < base * n + d then none else some (base * n + d)) 0

/-- The lowest `width` digits of a number, most significant first and with leading zeros. -/
def fixedDigits (base : Nat) : (width : Nat) → Nat → List Char
  | 0, _ => []
  | width + 1, n => fixedDigits base width (n / base) ++ [Nat.digitChar (n % base)]

@[simp] theorem length_fixedDigits (base width n : Nat) :
    (fixedDigits base width n).length = width := by
  induction width generalizing n with
  | zero => rfl
  | succ width ih => simp [fixedDigits, ih]

theorem foldl_digits_mono {base : Nat} (h : 0 < base) (ds : List Nat) (n : Nat) :
    n ≤ ds.foldl (fun n d => base * n + d) n := by
  induction ds generalizing n with
  | nil => exact Nat.le_refl n
  | cons d ds ih =>
      exact Nat.le_trans (Nat.le_trans (Nat.le_mul_of_pos_left n h) (Nat.le_add_right _ d)) (ih _)

/-- A number that is read does not exceed its bound, and one that does not exceed it is read. -/
theorem ofDigitsUpTo?_eq {base : Nat} (h : 0 < base) (bound : Nat) (ds : List Nat) :
    ofDigitsUpTo? base bound ds =
      if ofDigits base ds ≤ bound then some (ofDigits base ds) else none := by
  suffices H : ∀ n, n ≤ bound →
      ds.foldlM (fun n d => if bound < base * n + d then none else some (base * n + d)) n =
        if ds.foldl (fun n d => base * n + d) n ≤ bound then
          some (ds.foldl (fun n d => base * n + d) n) else none from H 0 (Nat.zero_le _)
  induction ds with
  | nil => intro n hn; simp [hn]
  | cons d ds ih =>
      intro n hn
      rw [List.foldlM_cons]
      by_cases hb : bound < base * n + d
      · have hlt := Nat.lt_of_lt_of_le hb (foldl_digits_mono h ds (base * n + d))
        rw [if_pos hb, List.foldl_cons, if_neg (Nat.not_le_of_lt hlt)]
        rfl
      · rw [if_neg hb]
        exact ih _ (Nat.le_of_not_lt hb)

theorem decimal?_digitChar {d : Nat} (h : d < 10) : decimal? (Nat.digitChar d) = some d :=
  (by decide : ∀ d : Fin 10, decimal? (Nat.digitChar d) = some d.val) ⟨d, h⟩

theorem hexadecimal?_digitChar {d : Nat} (h : d < 16) :
    hexadecimal? (Nat.digitChar d) = some d :=
  (by decide : ∀ d : Fin 16, hexadecimal? (Nat.digitChar d) = some d.val) ⟨d, h⟩

theorem hexNumber?_append (xs ys : List Char) (n : Nat) :
    hexNumber? (xs ++ ys) n = (hexNumber? xs n).bind (hexNumber? ys) := by
  induction xs generalizing n with
  | nil => rfl
  | cons c cs ih =>
      cases h : hexadecimal? c with
      | none => simp [hexNumber?, h]
      | some d => simp [hexNumber?, h, ih]

/-- Hexadecimal digits of a fixed width spell the number back. -/
theorem hexNumber?_fixedDigits (width n m : Nat) :
    hexNumber? (fixedDigits 16 width n) m = some (.pow 16 width * m + n % .pow 16 width) := by
  simp only [Nat.pow_eq]
  induction width generalizing n with
  | zero => simp [fixedDigits, hexNumber?, Nat.mod_one]
  | succ width ih =>
      rw [fixedDigits, hexNumber?_append, ih]
      simp only [Option.bind_some, hexNumber?,
        hexadecimal?_digitChar (Nat.mod_lt n (by decide : 16 > 0))]
      congr 1
      rw [Nat.pow_succ, Nat.mul_comm (16 ^ width) 16, Nat.mod_mul, Nat.mul_add, Nat.mul_assoc]
      omega

end Reminders.Text
