/-!
# Punycode

A text beyond ASCII may be spelled in ASCII: its ASCII characters come first, then, after a hyphen
if there are any, the others in ascending order, each as the distance from the one before it. A
distance counts code points and places in the text at once. It is a numeral in base 36, the least
digit first, whose last digit is known by a bound that adapts to the distances so far. Numbers are
words of 32 bits, and a distance that does not fit is no distance.
-/

namespace Reminders.Domain.Punycode

def maxNumber : Nat := 0xFFFFFFFF

def base : Nat := 36

/-- The value of a digit, which is a letter of either case or a decimal digit. -/
def digit? (c : Char) : Option Nat :=
  if 'a' ≤ c && c ≤ 'z' then some (c.toNat - 'a'.toNat)
  else if 'A' ≤ c && c ≤ 'Z' then some (c.toNat - 'A'.toNat)
  else if '0' ≤ c && c ≤ '9' then some (c.toNat - '0'.toNat + 26)
  else none

/-- The bound of a digit, for its place and the bias: a digit below it is the last one. -/
def bound (place bias : Nat) : Nat :=
  if place ≤ bias then 1 else if bias + 26 ≤ place then 26 else place - bias

/-- Scales a distance down to where it gives a bias, after so many places. -/
def scaled (distance places : Nat) : Nat × Nat :=
  if 455 < distance then scaled (distance / 35) (places + base) else (distance, places)
termination_by distance
decreasing_by omega

/-- The bias after a distance to a place in a text of so many characters. -/
def adapted (distance size : Nat) (isFirst : Bool) : Nat :=
  let distance := if isFirst then distance / 700 else distance / 2
  let (distance, places) := scaled (distance + distance / size) 0
  places + base * distance / (distance + 38)

/-- Adds a distance to a number, reading its digits from a place with a weight. -/
def readDistance? (bias : Nat) : (place weight : Nat) → List Char → Nat → Option (Nat × List Char)
  | _, _, [], _ => none
  | place, weight, c :: cs, n => do
      let digit ← digit? c
      if (maxNumber - n) / weight < digit then none
      else
        let bound := bound place bias
        let n := n + digit * weight
        if digit < bound then some (n, cs)
        else if maxNumber / (base - bound) < weight then none
        else readDistance? bias (place + base) (weight * (base - bound)) cs n

/-- Where a reader of distances is. -/
structure State where
  /-- The characters so far. -/
  text : List Char
  /-- The code point of the last character that was put in. -/
  code : Nat
  /-- The place behind it. -/
  place : Nat
  bias : Nat

/-- Puts in the character that a distance leads to, which has been added to the place. -/
def State.insert? (s : State) (n : Nat) : Option State :=
  let size := s.text.length + 1
  let code := s.code + n / size
  let place := n % size
  if code < 0xD800 || (0xDFFF < code && code < 0x110000) then
    some ⟨s.text.insertIdx place (Char.ofNat code), code, place + 1,
      adapted (n - s.place) size (s.place = 0)⟩
  else none

/-- Reads distances to the end of a text, so many at the most. -/
def readDistances? : (times : Nat) → State → List Char → Option State
  | _, s, [] => some s
  | 0, _, _ => none
  | times + 1, s, cs => do
      let (n, rest) ← readDistance? s.bias base 1 cs s.place
      let s ← s.insert? n
      readDistances? times s rest

/-- The characters before the last hyphen, if there are any, and the distances. -/
def splitLast (cs : List Char) : List Char × List Char :=
  let distances := (cs.reverse.takeWhile (· != '-')).reverse
  match cs.take (cs.length - distances.length - 1) with
  | [] => ([], cs)
  | plain => (plain, distances)

/-- The text that a text in ASCII spells. -/
def decode? (cs : List Char) : Option (List Char) :=
  let (plain, distances) := splitLast cs
  (readDistances? distances.length ⟨plain, 0x80, 0, 72⟩ distances).map State.text

end Reminders.Domain.Punycode
