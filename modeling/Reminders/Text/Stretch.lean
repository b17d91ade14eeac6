import Reminders.Text.Digit
import Reminders.Text.Split

/-!
# Stretches of code points

Tables of characters say the same about whole stretches of neighbouring code points. A table is
written as words between blanks, each a code point in base sixteen or the two ends of a stretch with
a hyphen between them, and it is searched by halving.
-/

namespace Reminders.Text

/-- Neighbouring code points, with what is known about them. -/
structure Stretch (α : Type) where
  first : Nat
  last : Nat
  value : α
deriving DecidableEq, Repr

namespace Stretch

variable {α : Type}

/-- The stretch with a code point, among those of a table from one place up to another. -/
def findBetween? (table : Array (Stretch α)) (n low high : Nat) : Option (Stretch α) :=
  if low < high then
    let middle := (low + high) / 2
    match table[middle]? with
    | none => none
    | some s =>
        if n < s.first then findBetween? table n low middle
        else if s.last < n then findBetween? table n (middle + 1) high
        else some s
  else none
termination_by high - low

def find? (table : Array (Stretch α)) (n : Nat) : Option (Stretch α) :=
  findBetween? table n 0 table.size

/-- Whether a character is in a table that ascends. -/
def has (table : Array (Stretch α)) (c : Char) : Bool := (find? table c.toNat).isSome

def words (rows : List String) : List (List Char) := rows.flatMap fun row => splitOn ' ' row.toList

/-- Reads a code point, or the two ends of a stretch. -/
def ofWord? (value : α) (word : List Char) : Option (Stretch α) :=
  match splitOn '-' word with
  | [only] => (hexNumber? only 0).map fun n => ⟨n, n, value⟩
  | [first, last] => do
      let first ← hexNumber? first 0
      let last ← hexNumber? last 0
      return ⟨first, last, value⟩
  | _ => none

/-- Reads a table all of whose stretches have the same value. -/
def ofRows (value : α) (rows : List String) : List (Stretch α) :=
  (words rows).filterMap (ofWord? value)

def table (rows : List String) : Array (Stretch Unit) := (ofRows () rows).toArray

/-- The table of several lists of characters, each with a value. -/
def tableOf (lists : List (α × List String)) : Array (Stretch α) :=
  ((lists.flatMap fun l => ofRows l.1 l.2).mergeSort fun s t => s.first ≤ t.first).toArray

end Stretch

end Reminders.Text
