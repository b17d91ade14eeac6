import Reminders.Text.Digit
import Reminders.Text.Utf8

/-!
# Percent escapes

A percent sign with two hexadecimal digits stands for a byte. Any other character, a percent sign
without two digits included, stands for its own bytes.
-/

namespace Reminders.Url

open Text (hexadecimal?)

/-- The byte that two hexadecimal digits spell. -/
def escapedByte? (high low : Char) : Option UInt8 := do
  let a ← hexadecimal? high
  let b ← hexadecimal? low
  return UInt8.ofNat (16 * a + b)

/-- The bytes that a text with percent escapes stands for. -/
def unescape : List Char → List UInt8
  | '%' :: a :: b :: cs =>
      match escapedByte? a b with
      | some byte => byte :: unescape cs
      | none => String.utf8EncodeChar '%' ++ unescape (a :: b :: cs)
  | c :: cs => String.utf8EncodeChar c ++ unescape cs
  | [] => []

def decode (cs : List Char) : Except Text.Utf8.Fault (List Char) := Text.Utf8.decode (unescape cs)

/-- The text that a text with percent escapes stands for if faults are let pass. -/
def decodeLeniently (cs : List Char) : List Char := Text.Utf8.decodeLeniently (unescape cs)

end Reminders.Url
