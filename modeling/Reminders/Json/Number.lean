import Reminders.Json.Source
import Reminders.Text.Digit

/-!
# Numbers in JSON text

A number that is skipped over only has to be written correctly, and every defect makes the text
malformed. A number that stands where something else is wanted is read to its end before it is
judged: there an early end of the text is told apart from a wrong character, and a magnitude that no
double-precision number can hold is a defect too.
-/

namespace Reminders.Json

open Text (decimal?)

/-- The decimal digits at the front of a source, as numbers, and the rest. -/
def takeDigits : Source → List Nat × Source
  | some c :: rest =>
      match decimal? c with
      | some d =>
          let p := takeDigits rest
          (d :: p.1, p.2)
      | none => ([], some c :: rest)
  | s => ([], s)

def dropDigits (s : Source) : Source :=
  s.dropWhile fun item => (item.bind decimal?).isSome

def startsWithDigit (s : Source) : Bool :=
  match s with
  | some c :: _ => (decimal? c).isSome
  | _ => false

/-- A source without the sign that may begin it, if it begins an exponent's digits. -/
def dropSign : Source → Source
  | some '+' :: rest => rest
  | some '-' :: rest => rest
  | s => s

/-- Passes over the exponent that may follow a number. -/
def skipExponent (s : Source) : Except Fault Source :=
  match s with
  | some 'e' :: rest | some 'E' :: rest =>
      let digits := dropSign rest
      if startsWithDigit digits then .ok (dropDigits digits) else .error .malformed
  | s => .ok s

/-- Passes over the fraction and the exponent that may follow an integer. -/
def skipFraction (s : Source) : Except Fault Source :=
  match s with
  | some '.' :: rest =>
      if startsWithDigit rest then skipExponent (dropDigits rest) else .error .malformed
  | s => skipExponent s

def skipNumber (s : Source) : Except Fault Source :=
  match s with
  | some '0' :: rest => if startsWithDigit rest then .error .malformed else skipFraction rest
  | some c :: rest =>
      if (decimal? c).isSome then skipFraction (dropDigits rest) else .error .malformed
  | _ => .error .malformed

/-! ### Magnitudes -/

/-- The nearest number of 53 significant bits; of two, the one whose last bit is zero. -/
def roundToDouble (n : Nat) : Nat :=
  let excess := n.log2 - 52
  let q := n >>> excess
  let r := n - q <<< excess
  let up := 1 <<< excess < 2 * r || (1 <<< excess = 2 * r && q % 2 = 1)
  (if up then q + 1 else q) <<< excess

/-- Whether `significand · 10 ^ exponent`, worked out in double precision, is too large for it. -/
def overflows (significand : Nat) (exponent : Int) : Bool :=
  if significand = 0 ∨ exponent < 0 then false
  else if 308 < exponent then true
  else
    1 <<< 1024 ≤
      roundToDouble (roundToDouble significand * roundToDouble (.pow 10 exponent.toNat))

/-- Appends digits to a significand for as long as it fits 64 bits, and counts the digits used. -/
def significant : List Nat → (significand : Nat) → (used : Nat) → Nat × Nat
  | [], n, used => (n, used)
  | d :: ds, n, used =>
      if UInt64.size ≤ 10 * n + d then (n, used) else significant ds (10 * n + d) (used + 1)

/-! ### Numbers where something else is wanted -/

/-- The number that the digits of an exponent stand for. It counts as `2 ^ 31` at most, which is
more than any text can make up for with its fraction. -/
def exponentOf (digits : List Nat) : Nat := digits.foldl (fun n d => min (10 * n + d) (1 <<< 31)) 0

/-- The fault of a number whose significand and exponent are known so far, from its written exponent
on. -/
def exponentFault (significand : Nat) (exponent : Int) (s : Source) : Fault :=
  let judge (e : Int) : Fault := if overflows significand e then .malformed else .mismatched
  match s with
  | some 'e' :: rest | some 'E' :: rest =>
      match dropSign rest with
      | [] => .truncated
      | digits =>
          if startsWithDigit digits then
            let n := exponentOf (takeDigits digits).1
            judge (if rest.head? = some (some '-') then exponent - n else exponent + n)
          else .malformed
  | _ => judge exponent

/-- The fault of a number from its fraction on. -/
def fractionFault (significand : Nat) (exponent : Int) (s : Source) : Fault :=
  match s with
  | [some '.'] => .truncated
  | some '.' :: rest =>
      if startsWithDigit rest then
        let p := takeDigits rest
        let q := significant p.1 significand 0
        exponentFault q.1 (exponent - q.2) p.2
      else .malformed
  | s => exponentFault significand exponent s

/-- The fault of a number, without its sign, that stands where something else is wanted. -/
def numberFault (s : Source) : Fault :=
  match s with
  | [] => .truncated
  | some '0' :: rest => if startsWithDigit rest then .malformed else fractionFault 0 0 rest
  | s =>
      if startsWithDigit s then
        let p := takeDigits s
        let q := significant p.1 0 0
        fractionFault q.1 (p.1.length - q.2 : Nat) p.2
      else .malformed

/-! ### Lengths -/

theorem length_dropDigits_le (s : Source) : (dropDigits s).length ≤ s.length :=
  (List.dropWhile_sublist _).length_le

theorem length_dropSign_le (s : Source) : (dropSign s).length ≤ s.length := by
  unfold dropSign
  split <;> simp

theorem length_of_skipExponent {s rest : Source} (h : skipExponent s = .ok rest) :
    rest.length ≤ s.length := by
  unfold skipExponent at h
  split at h
  · next tail =>
      simp only at h
      split at h
      · simp only [Except.ok.injEq] at h
        have := length_dropDigits_le (dropSign tail)
        have := length_dropSign_le tail
        simp only [← h, List.length_cons]
        omega
      · simp at h
  · next tail =>
      simp only at h
      split at h
      · simp only [Except.ok.injEq] at h
        have := length_dropDigits_le (dropSign tail)
        have := length_dropSign_le tail
        simp only [← h, List.length_cons]
        omega
      · simp at h
  · simp only [Except.ok.injEq] at h
    exact Nat.le_of_eq (congrArg List.length h).symm

theorem length_of_skipFraction {s rest : Source} (h : skipFraction s = .ok rest) :
    rest.length ≤ s.length := by
  unfold skipFraction at h
  split at h
  · next tail =>
      split at h
      · have := length_of_skipExponent h
        have := length_dropDigits_le tail
        simp only [List.length_cons]
        omega
      · simp at h
  · exact length_of_skipExponent h

/-- A number takes up at least one character. -/
theorem length_of_skipNumber {s rest : Source} (h : skipNumber s = .ok rest) :
    rest.length < s.length := by
  unfold skipNumber at h
  split at h
  · split at h
    · simp at h
    · have := length_of_skipFraction h
      simp only [List.length_cons]
      omega
  · next tail _ =>
      split at h
      · have := length_of_skipFraction h
        have := length_dropDigits_le tail
        simp only [List.length_cons]
        omega
      · simp at h
  · simp at h

end Reminders.Json
