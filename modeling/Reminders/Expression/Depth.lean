/-!
# Depth of expressions

The parts of an expression lie in each other, and how deep they may lie is bounded. Parts that are
side by side form a row: characters that follow each other, alternatives, or members of a class. A
single part is as deep in a row as it is on its own, and several parts lie one level deeper.
-/

namespace Reminders.Expression

/-- How deep an expression may be. -/
def maxDepth : Nat := 250

/-- Parts that are side by side. -/
structure Row where
  /-- How many parts there are. -/
  size : Nat
  /-- The depth of the deepest one. -/
  depth : Nat
deriving DecidableEq, Repr

namespace Row

def empty : Row := ⟨0, 0⟩

def add (r : Row) (depth : Nat) : Row := ⟨r.size + 1, max r.depth depth⟩

/-- Makes room for a part that takes the place of a part of less depth. -/
def deepen (r : Row) (depth : Nat) : Row := { r with depth := max r.depth depth }

/-- The depth of the whole. -/
def total (r : Row) : Nat := if r.size ≤ 1 then r.depth else r.depth + 1

/-- A part that is alone is as deep as on its own. -/
@[simp] theorem total_add_empty (depth : Nat) : (empty.add depth).total = depth := by
  simp [empty, add, total]

end Row

end Reminders.Expression
