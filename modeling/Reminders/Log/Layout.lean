import Reminders.Text.Alphanumeric
import Reminders.Text.Slice

/-!
# Layout of directives

A directive may name a target, and between brackets a span and a field; the field stands between
braces. An equals sign comes before the level at the end. Reading finds out where these parts are,
as places of bytes.
-/

namespace Reminders.Log

structure Extent where
  start : Nat
  stop : Nat
deriving DecidableEq, Repr

namespace Extent

/-- The extent of a text from some place on. -/
def of (place : Nat) (cs : List Char) : Extent := ⟨place, place + Text.byteLength cs⟩

/-- What is there in a text, if the extent has to do with characters only. -/
def cut? (e : Extent) (cs : List Char) : Option (List Char) := Text.slice? e.start e.stop cs

end Extent

/-- Where the parts of a directive are. -/
inductive Layout where
  /-- There are no parts. -/
  | word
  /-- The level goes from its place to the end. -/
  | parts (target span field : Option Extent) (level : Option Nat)
deriving DecidableEq, Repr

namespace Layout

def startsTarget (c : Char) : Bool := c = '-' || c = ':' || c = '_' || Text.isAlphanumeric c

/-- Whether a level follows the brackets, and where. -/
def level? (place : Nat) : List Char → Option (Option Nat)
  | [] => some none
  | '=' :: _ => some (some (place + 1))
  | _ => none

/-- Reads on after the bracket that opens a directive or follows its target. -/
def readSpan? (target : Option Extent) (place : Nat) (cs : List Char) : Option Layout :=
  let inName (c : Char) : Bool := c != ']' && c != '\x7b'
  let inField (c : Char) : Bool := c != '\x7d'
  let name := cs.takeWhile inName
  let span := Extent.of place name
  match cs.dropWhile inName with
  | [] => none
  | ']' :: rest => (level? (span.stop + 1) rest).map (parts target (some span) none)
  | _ :: rest =>
      let field := Extent.of (span.stop + 1) (rest.takeWhile inField)
      match rest.dropWhile inField with
      | _ :: ']' :: last =>
          (level? (field.stop + 2) last).map
            (parts target (if name.isEmpty then none else some span) (some field))
      | _ => none

def read? : List Char → Option Layout
  | [] => none
  | '[' :: cs => readSpan? none 1 cs
  | c :: cs =>
      let inTarget (c : Char) : Bool := c != '=' && c != '['
      if startsTarget c then
        let target := Extent.of 0 ((c :: cs).takeWhile inTarget)
        match (c :: cs).dropWhile inTarget with
        | [] => some word
        | '=' :: _ => some (parts (some target) none none (some (target.stop + 1)))
        | _ :: rest => readSpan? (some target) (target.stop + 1) rest
      else none

end Layout

end Reminders.Log
