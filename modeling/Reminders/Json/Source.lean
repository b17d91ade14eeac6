/-!
# Text to be read as JSON

JSON is read from bytes, in one pass. A `Source` is what those bytes spell: characters, and bytes
that are part of no character. A string may be skipped over even if it holds such bytes, but it
cannot be decoded. There are three kinds of fault, and the first in reading order is the one
reported.
-/

namespace Reminders.Json

/-- What a text spells; `none` is a byte that is part of no character. -/
abbrev Source := List (Option Char)

inductive Fault where
  /-- The text is not JSON. -/
  | malformed
  /-- The text may be JSON, but not of the wanted kind. -/
  | mismatched
  /-- The text ends too early. -/
  | truncated
deriving DecidableEq, Repr

namespace Source

/-- What a string spells. -/
def ofString (s : String) : Source := s.toList.map some

/-- Decodes bytes from a position on, after what has been decoded before it, in reverse. -/
def decode (bytes : ByteArray) (position : Nat) (decoded : Source) : Source :=
  if position < bytes.size then
    match bytes.utf8DecodeChar? position with
    | some c => decode bytes (position + c.utf8Size) (some c :: decoded)
    | none => decode bytes (position + 1) (none :: decoded)
  else decoded.reverse
termination_by bytes.size - position
decreasing_by
  · have := c.utf8Size_pos
    omega
  · omega

/-- What bytes spell. -/
def ofBytes (bytes : ByteArray) : Source := decode bytes 0 []

/-- The number of bytes a part of a source takes. -/
def width : Option Char → Nat
  | some c => c.utf8Size
  | none => 1

/-- Whether an item is one of the four characters that JSON allows around its tokens. -/
def isBlank (item : Option Char) : Bool :=
  item = some ' ' || item = some '\n' || item = some '\t' || item = some '\r'

def skipBlank (s : Source) : Source := s.dropWhile isBlank

@[simp] theorem skipBlank_nil : skipBlank [] = [] := rfl

theorem length_skipBlank_le (s : Source) : (skipBlank s).length ≤ s.length :=
  (List.dropWhile_sublist isBlank).length_le

theorem length_lt_of_skipBlank {s rest : Source} {item : Option Char}
    (h : skipBlank s = item :: rest) : rest.length < s.length := by
  have := length_skipBlank_le s
  rw [h] at this
  exact this

end Source

end Reminders.Json
