import Reminders.Text.Combining
import Reminders.Text.Printable

/-!
# Quoted text

Messages quote the text they complain about. Quotation escapes the quote itself, the backslash, the
four control characters that have a short name, and every character that would not show on its own:
the unprintable ones and those that combine with the character before them.
-/

namespace Reminders.Text

/-- A character as its code point in lower-case hexadecimal. -/
def codePointEscape (c : Char) : List Char :=
  ['\\', 'u', '\x7b'] ++ Nat.toDigits 16 c.toNat ++ ['\x7d']

def escape (c : Char) : List Char :=
  match c with
  | '\x00' => ['\\', '0']
  | '\t' => ['\\', 't']
  | '\r' => ['\\', 'r']
  | '\n' => ['\\', 'n']
  | '\\' => ['\\', '\\']
  | '"' => ['\\', '"']
  | c => if isCombining c || !isPrintable c then codePointEscape c else [c]

def quoted (s : String) : String :=
  String.ofList ('"' :: s.toList.flatMap escape ++ ['"'])

/-- A character between single quotes, for the characters that need no escape there. -/
def quotedChar (c : Char) : String :=
  String.ofList ['\x27', c, '\x27']

@[simp] theorem toList_quoted (s : String) :
    (quoted s).toList = '"' :: s.toList.flatMap escape ++ ['"'] := by
  simp [quoted]

end Reminders.Text
