import Reminders.Expression.Reader
import Reminders.Log.Entry
import Reminders.Log.Layout
import Reminders.Text.Blank
import Reminders.Text.Fraction
import Reminders.Text.Numeral
import Reminders.Text.Split

/-!
# Directives of log filters

A directive lets entries pass up to some level. It may name a target, with which the target of an
entry must begin, and between brackets a span and a field. The field stands between braces, perhaps
with a value. A level on its own is a directive for all entries; without a level, a directive lets
all levels pass.

No entry is written inside a span and no field is looked into, so a directive that names a span or a
value applies to no entry.

Where the parts of a directive are is found out without the blanks around it, but they are taken
from the text with these blanks, at the same places. So blanks at the end belong to a level or a
target there, and with blanks in front each part starts and ends too early. Such a directive can
have no level, and it applies to no entry.
-/

namespace Reminders.Log

/-- The least urgent rank: all levels pass. -/
def allLevels : Nat := Level.trace.rank

/-- The names of ranks, from the one at which nothing passes. -/
def rankNames : List String := ["off", "error", "warn", "info", "debug", "trace"]

/-- The rank that a word gives: a numeral, or a name whose letters may be of either case. -/
def rank? (word : List Char) : Option Nat :=
  match Text.Numeral.read (UInt64.size - 1) word with
  | .ok n => if n ≤ allLevels then some n else none
  | .error _ => rankNames.idxOf? (String.ofList (word.map Char.toLower))

/-- A field that an entry must have, perhaps with some value. -/
structure FieldTest where
  name : List Char
  /-- Whether the value of the field is to be looked into. -/
  valued : Bool
deriving DecidableEq, Repr

namespace FieldTest

/-- Whether a text may stand for the value of a field: a number or a regular expression. -/
def isValue : List Char → Bool
  | '+' :: cs => Text.isFraction cs
  | cs => Expression.isExpression cs

/-- Reads a field. What follows a second equals sign is passed over. -/
def parse? (cs : List Char) : Option FieldTest :=
  match Text.splitOn '=' cs with
  | name :: value :: _ => if isValue value then some ⟨name, true⟩ else none
  | _ => if cs.isEmpty then none else some ⟨cs, false⟩

end FieldTest

/-- Lets some entries pass up to a rank of levels. -/
structure Directive where
  target : Option (List Char)
  /-- The name of the span in which an entry must be written. -/
  span : Option (List Char)
  field : Option FieldTest
  rank : Nat
deriving DecidableEq, Repr

namespace Directive

/-- The rank after a directive's equals sign. -/
def explicitRank? (word : List Char) : Option Nat :=
  if word.isEmpty then some allLevels else rank? word

/-- What is at an extent, if there is one. -/
def part? (cs : List Char) : Option Extent → Option (Option (List Char))
  | none => some none
  | some extent => (extent.cut? cs).map some

/-- The field between braces, if there is one. -/
def field? : Option (List Char) → Option (Option FieldTest)
  | none => some none
  | some cs => (FieldTest.parse? cs).map some

/-- The rank that is given at the end of a text. Without one, all levels pass. -/
def finalRank? (cs : List Char) : Option Nat → Option Nat
  | none => some allLevels
  | some place => (Text.dropBytes? place cs).bind explicitRank?

/-- Takes the parts of a directive out of a text. -/
def ofLayout? (cs : List Char) : Layout → Option Directive
  | .word =>
      match rank? cs with
      | some rank => some ⟨none, none, none, rank⟩
      | none => some ⟨some cs, none, none, allLevels⟩
  | .parts target span field level => do
      let target ← part? cs target
      let span ← part? cs span
      let field ← (part? cs field).bind field?
      let rank ← finalRank? cs level
      return ⟨target, span, field, rank⟩

/-- Reads a directive. -/
def parse? (cs : List Char) : Option Directive :=
  (Layout.read? (Text.trim cs)).bind (ofLayout? cs)

def appliesTo (d : Directive) (e : Entry) : Bool :=
  d.span.isNone && (d.target.all fun target => target.isPrefixOf e.target.toList) &&
    d.field.all fun field => !field.valued && e.fieldNames.contains (String.ofList field.name)

/-- Whether a directive gives way to another one that applies to the same entry: to one with a
longer target or, if the targets are the same, to one with a field or with the same or a later
field. -/
def givesWayTo (d other : Directive) : Bool :=
  let size (d : Directive) : Nat := d.target.elim 0 fun target => target.length + 1
  size d < size other ||
    (size d = size other &&
      match d.field, other.field with
      | none, _ => true
      | some _, none => false
      | some field, some field' => String.ofList field.name ≤ String.ofList field'.name)

end Directive

end Reminders.Log
