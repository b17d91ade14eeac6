import Reminders.Text.Digit

/-!
# Bounded decimal numerals

A numeral is an optional plus sign followed by decimal digits, leading zeros allowed, whose value
must not exceed a bound. It is read from left to right, so the first offending character decides
which fault is reported.
-/

namespace Reminders.Text

inductive NumeralFault where
  | empty
  | notDigit
  | tooLarge
deriving DecidableEq, Repr

namespace NumeralFault

def message : NumeralFault → String
  | empty => "cannot parse integer from empty string"
  | notDigit => "invalid digit found in string"
  | tooLarge => "number too large to fit in target type"

end NumeralFault

namespace Numeral

/-- Reads decimal digits after those already read into `n`. -/
def readDigits (bound : Nat) : List Char → Nat → Except NumeralFault Nat
  | [], n => .ok n
  | c :: cs, n =>
      match decimal? c with
      | none => .error .notDigit
      | some d =>
          if bound < 10 * n + d then .error .tooLarge else readDigits bound cs (10 * n + d)

/-- Reads a numeral. A sign on its own is an offending character. -/
def read (bound : Nat) : List Char → Except NumeralFault Nat
  | [] => .error .empty
  | ['+'] => .error .notDigit
  | '+' :: cs => readDigits bound cs 0
  | cs => readDigits bound cs 0

end Numeral

end Reminders.Text
