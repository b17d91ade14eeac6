import Reminders.Domain.Characters
import Reminders.Text.Stretch

/-!
# Directions

A domain with characters that are read from right to left can be shown only if none of its labels
runs into its neighbours. So each of its labels is read in one direction, which its first character
gives, ends in a letter or a number but for marks, and has no character in it that would turn
around.
-/

namespace Reminders.Domain

open Text (Stretch)

inductive Direction where
  | leftToRight
  | rightToLeft
  | arabicLetter
  | arabicNumber
  | europeanNumber
  | europeanSeparator
  | europeanTerminator
  | commonSeparator
  | nonspacingMark
  | boundaryNeutral
  | otherNeutral
deriving DecidableEq, Repr

namespace Direction

/-- The directions of all characters that are not read from left to right. -/
def table : Array (Stretch Direction) := Stretch.tableOf [
  (rightToLeft, rightToLeftRows), (arabicLetter, arabicLetterRows),
  (arabicNumber, arabicNumberRows), (europeanNumber, europeanNumberRows),
  (europeanSeparator, europeanSeparatorRows), (europeanTerminator, europeanTerminatorRows),
  (commonSeparator, commonSeparatorRows), (nonspacingMark, nonspacingMarkRows),
  (boundaryNeutral, boundaryNeutralRows), (otherNeutral, otherNeutralRows)]

/-- The direction of a character. -/
def of (c : Char) : Direction := (Stretch.find? table c.toNat).elim leftToRight Stretch.value

/-- What stands in a label of either direction, though not at its end. -/
def inner : List Direction :=
  [europeanSeparator, commonSeparator, europeanTerminator, otherNeutral, boundaryNeutral,
    nonspacingMark]

/-- What a label from left to right may end in. -/
def leftToRightEnds : List Direction := [leftToRight, europeanNumber]

/-- What a label from right to left may end in. -/
def rightToLeftEnds : List Direction := [rightToLeft, arabicLetter, europeanNumber, arabicNumber]

/-- Whether the characters of a label may stand side by side: the first one, and the others from the
last one on, without marks at the end. A label from right to left has the digits of one script. -/
def fits (first : Direction) (others : List Direction) : Bool :=
  let within (ends : List Direction) : Bool :=
    others.head?.all ends.contains && others.tail.all (ends ++ inner).contains
  match first with
  | leftToRight => within leftToRightEnds
  | rightToLeft | arabicLetter =>
      within rightToLeftEnds && !(others.contains europeanNumber && others.contains arabicNumber)
  | _ => false

end Direction

/-- Whether a character is read from right to left. -/
def isReversed (c : Char) : Bool :=
  [Direction.rightToLeft, .arabicLetter, .arabicNumber].contains (Direction.of c)

/-- Whether a label may stand in a domain with characters that are read from right to left. -/
def hasDirection (label : List Char) : Bool :=
  match label.map Direction.of with
  | [] => true
  | first :: others => Direction.fits first (others.reverse.dropWhile (· = .nonspacingMark))

/-- Whether the labels of a domain can be shown side by side. -/
def haveDirections (labels : List (List Char)) : Bool :=
  !labels.any (·.any isReversed) || labels.all hasDirection

end Reminders.Domain
