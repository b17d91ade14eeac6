import Reminders.Domain.Composites
import Reminders.Text.Stretch

/-!
# Composition

A letter with a mark may be written as one character or as two, and marks that do not touch each
other may be written in any order. `composed` chooses one of these spellings: characters are taken
apart, marks are put in the order of their classes, and what is left of it is put together again. A
syllable of Hangul is put together from its letters by a rule.
-/

namespace Reminders.Domain

open Text (Stretch hexNumber? splitOn)

/-- The parts of a composite, read from its row. -/
def compositeOf? (word : List Char) : Option (Stretch (Nat × Nat)) :=
  match splitOn ':' word with
  | [composite, parts] =>
      match (splitOn '.' parts).mapM fun part => hexNumber? part 0 with
      | some [first, second] => Stretch.ofWord? (first, second) composite
      | _ => none
  | _ => none

def composites : Array (Stretch (Nat × Nat)) :=
  ((Stretch.words compositeRows).filterMap compositeOf?).toArray

/-- A number that stands for two code points. -/
def pairKey (first second : Nat) : Nat := first * 0x110000 + second

/-- The composites by their parts. -/
def pairs : Array (Stretch Nat) :=
  ((composites.toList.map fun s =>
    let key := pairKey s.value.1 s.value.2
    ⟨key, key, s.first⟩).mergeSort fun s t : Stretch Nat => s.first ≤ t.first).toArray

def combiningClasses : Array (Stretch Nat) := Stretch.tableOf combiningClassRows

/-- The class of a mark, and zero for any other character. -/
def combiningClass (n : Nat) : Nat := (Stretch.find? combiningClasses n).elim 0 Stretch.value

namespace Hangul

/-- Where the initial, the medial, the final letters and the syllables begin. -/
def initials : Nat := 0x1100
@[inherit_doc initials] def medials : Nat := 0x1161
@[inherit_doc initials] def finals : Nat := 0x11A7
@[inherit_doc initials] def syllables : Nat := 0xAC00

/-- How many initial, medial and final letters there are, no final letter included. -/
def initialCount : Nat := 19
@[inherit_doc initialCount] def medialCount : Nat := 21
@[inherit_doc initialCount] def finalCount : Nat := 28

/-- The parts of a syllable: of one with a final letter the syllable without it, and of any other
its two letters. -/
def parts? (n : Nat) : Option (Nat × Nat) :=
  let i := n - syllables
  if n < syllables || initialCount * medialCount * finalCount ≤ i then none
  else if i % finalCount = 0 then
    some (initials + i / (medialCount * finalCount), medials + i / finalCount % medialCount)
  else some (n - i % finalCount, finals + i % finalCount)

/-- The syllable of two parts. -/
def syllable? (first second : Nat) : Option Nat :=
  let initial := first - initials
  let medial := second - medials
  let i := first - syllables
  let final := second - finals
  if initials ≤ first && initial < initialCount && medials ≤ second && medial < medialCount then
    some (syllables + (initial * medialCount + medial) * finalCount)
  else if syllables ≤ first && i < initialCount * medialCount * finalCount && i % finalCount = 0 &&
      finals < second && final < finalCount then
    some (first + final)
  else none

end Hangul

def parts? (n : Nat) : Option (Nat × Nat) :=
  ((Stretch.find? composites n).map Stretch.value).or (Hangul.parts? n)

/-- The composite of two parts. -/
def composite? (first second : Nat) : Option Nat :=
  ((Stretch.find? pairs (pairKey first second)).map Stretch.value).or
    (Hangul.syllable? first second)

/-- Takes a character apart, so many times at the most. -/
def takeApart : (times : Nat) → Nat → List Nat
  | 0, n => [n]
  | times + 1, n =>
      match parts? n with
      | some (first, second) => takeApart times first ++ [second]
      | none => [n]

/-- How often a character can be taken apart: none has more than two marks. -/
def depth : Nat := 2

/-- Puts marks in the order of their classes, those already passed in reverse. -/
def orderedAfter (marks : List Nat) : List Nat → List Nat
  | [] => marks.reverse.mergeSort fun m n => combiningClass m ≤ combiningClass n
  | n :: ns =>
      if combiningClass n = 0 then
        (marks.reverse.mergeSort fun m n => combiningClass m ≤ combiningClass n) ++
          n :: orderedAfter [] ns
      else orderedAfter (n :: marks) ns

/-- Puts together what follows a character and the marks that it has kept, the last of which comes
first. A mark cannot pass one of its own class. -/
def joinedAfter (base : Nat) (kept : List Nat) : List Nat → List Nat
  | [] => base :: kept.reverse
  | n :: ns =>
      let isNext := kept.head?.all fun m => combiningClass m < combiningClass n
      match if isNext then composite? base n else none with
      | some composite => joinedAfter composite kept ns
      | none =>
          if combiningClass n = 0 then base :: kept.reverse ++ joinedAfter n [] ns
          else joinedAfter base (n :: kept) ns

/-- Puts together what can be. Marks that have nothing before them stay. -/
def joined : List Nat → List Nat
  | [] => []
  | n :: ns => if combiningClass n = 0 then joinedAfter n [] ns else n :: joined ns

/-- The spelling of a text that has a character for each letter with its marks, if there is one. -/
def composed (cs : List Char) : List Char :=
  (joined (orderedAfter [] (cs.flatMap fun c => takeApart depth c.toNat))).map Char.ofNat

end Reminders.Domain
