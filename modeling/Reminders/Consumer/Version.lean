import Reminders.Consumer.Fault
import Reminders.Text.Blank
import Reminders.Text.Split

/-!
# API versions in consumer names

A version is a dotted list of components, each a non-empty run of ASCII letters and digits. In a
consumer name it stands in its normal form: trailing components that are all zeros are dropped,
except for the first component, and the rest is joined with underscores. So `1.0` is `1` and `2.1.0`
is `2_1`.
-/

namespace Reminders.Consumer.Version

open Text (trim splitOn join)

def isComponent (cs : List Char) : Bool := !cs.isEmpty && cs.all Char.isAlphanum

def isZero (cs : List Char) : Bool := cs.all (· = '0')

/-- The components of a version, blank characters around it set aside. -/
def components (version : String) : Except Fault (List (List Char)) :=
  let cs := trim version.toList
  if cs.isEmpty then .error .emptyVersion
  else
    let parts := splitOn '.' cs
    if parts.all isComponent then .ok parts else .error (.malformedVersion version)

/-- Components without the zeros at their end; the first component always stays. -/
def normalForm : List (List Char) → List (List Char)
  | [] => []
  | first :: rest => first :: (rest.reverse.dropWhile isZero).reverse

/-- A version as it stands in a consumer name. -/
def format (version : String) : Except Fault (List Char) := do
  let parts ← components version
  return join '_' (normalForm parts)

@[simp] theorem normalForm_normalForm (parts : List (List Char)) :
    normalForm (normalForm parts) = normalForm parts := by
  cases parts with
  | nil => rfl
  | cons first rest =>
      simp only [normalForm, List.reverse_reverse, List.cons.injEq, true_and]
      congr 1
      generalize rest.reverse = l
      induction l with
      | nil => rfl
      | cons x xs ih =>
          cases h : isZero x <;> simp [List.dropWhile, h, ih]

end Reminders.Consumer.Version
