import Reminders.Text.Digit

/-!
# Decimal fractions

Which texts without a sign are decimal fractions. At least one digit stands before or after the
point, which may be left out after digits, and an exponent may follow. Infinity is a fraction too,
and so is what is no number in so many words.
-/

namespace Reminders.Text

/-- The end of a decimal fraction: an exponent or nothing. -/
def isExponent : List Char → Bool
  | [] => true
  | e :: cs =>
      let digits := match cs with
        | '+' :: cs => cs
        | '-' :: cs => cs
        | cs => cs
      (e = 'e' || e = 'E') && !digits.isEmpty && digits.all fun c => (decimal? c).isSome

/-- Whether a text is a decimal fraction without a sign, infinity, or no number in so many words. -/
def isFraction (cs : List Char) : Bool :=
  if ["inf", "infinity", "nan"].contains (String.ofList (cs.map Char.toLower)) then true
  else
    match spanDigits decimal? cs with
    | (whole, '.' :: cs) =>
        let (part, cs) := spanDigits decimal? cs
        (!whole.isEmpty || !part.isEmpty) && isExponent cs
    | (whole, cs) => !whole.isEmpty && isExponent cs

end Reminders.Text
