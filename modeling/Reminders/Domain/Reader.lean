import Reminders.Domain.Direction
import Reminders.Domain.Label

/-!
# Reading domains

A domain is read into its labels, each spelled with the letters that it stands for. Characters are
replaced and composed before the points are looked for, as some of them stand for a point.
-/

namespace Reminders.Domain

/-- Reads a domain, in which some characters of ASCII are refused. -/
def read? (refuses : Char → Bool) (cs : List Char) : Option (List (List Char)) := do
  let text ← (replaced? cs).map composed
  if text.any refuses then none
  else
    let labels ← (Text.splitOn '.' text).mapM (readLabel? refuses)
    if haveDirections labels then some labels else none

end Reminders.Domain
