import Reminders.Domain.Characters
import Reminders.Domain.Replacements
import Reminders.Text.Stretch

/-!
# The spelling of domains

A domain may be spelled in many ways. Before it is read, some characters are replaced, and some are
left out; others stand for themselves, and no domain has the rest.
-/

namespace Reminders.Domain

open Text (Stretch hexNumber? splitOn)

/-- What replaces a character of a stretch. -/
structure Replacement where
  /-- The distance between the characters of the stretch that are replaced. -/
  step : Nat
  /-- The code points that replace the first character; those after it are shifted with it. -/
  codes : List Nat
deriving DecidableEq, Repr

namespace Replacement

/-- Reads code points between points. -/
def codesOf (cs : List Char) : List Nat :=
  if cs.isEmpty then [] else (splitOn '.' cs).filterMap fun word => hexNumber? word 0

/-- Reads a stretch and what replaces its characters. -/
def ofWord? (word : List Char) : Option (Stretch Replacement) :=
  match splitOn ':' word with
  | [source, target] =>
      match splitOn '~' source with
      | [first, last] => Stretch.ofWord? ⟨2, codesOf target⟩ (first ++ '-' :: last)
      | _ => Stretch.ofWord? ⟨1, codesOf target⟩ source
  | _ => none

def table : Array (Stretch Replacement) :=
  ((Stretch.words replacementRows).filterMap ofWord?).toArray

end Replacement

/-- The code points that no domain is spelled with. -/
def excluded : Array (Stretch Unit) := Stretch.table excludedRows

/-- What replaces a character, if it does not stand for itself. -/
def replacement? (c : Char) : Option (List Char) :=
  (Stretch.find? Replacement.table c.toNat).bind fun s =>
    let offset := c.toNat - s.first
    if offset % s.value.step = 0 then
      some (s.value.codes.map fun code => Char.ofNat (code + offset))
    else none

def isValid (c : Char) : Bool := !Stretch.has excluded c && (replacement? c).isNone

/-- What a text stands for after replacement. -/
def replaced? (cs : List Char) : Option (List Char) :=
  (cs.mapM fun c =>
    match replacement? c with
    | some text => some text
    | none => if Stretch.has excluded c then none else some [c]).map List.flatten

end Reminders.Domain
