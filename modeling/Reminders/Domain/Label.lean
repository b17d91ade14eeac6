import Reminders.Domain.Characters
import Reminders.Domain.Composition
import Reminders.Domain.Mapping
import Reminders.Domain.Punycode

/-!
# Labels of domains

A label is what stands between the points of a domain. One that starts with `xn--` announces the
ASCII spelling of a text, which must be spelled as it would be otherwise: with no character that is
replaced, and with the characters for letters and marks that there are. A label beyond ASCII starts
with no mark, and a character that joins or separates its neighbours stands where it has something
to do: behind a sign that takes the vowel from a letter, or, if it separates, between letters that
would join.
-/

namespace Reminders.Domain

open Text (Stretch)

def marks : Array (Stretch Unit) := Stretch.table markRows

def joinsNext : Array (Stretch Unit) :=
  Stretch.tableOf [((), leftJoiningRows), ((), dualJoiningRows)]

/-- The letters that join with the one before them. -/
def joinsPrevious : Array (Stretch Unit) :=
  Stretch.tableOf [((), rightJoiningRows), ((), dualJoiningRows)]

def transparent : Array (Stretch Unit) := Stretch.table transparentRows

/-- The class of the signs that take the vowel from a letter. -/
def viramaClass : Nat := 9

def joiner : Char := '\u200D'

def separator : Char := '\u200C'

/-- Whether the first letter of a text, marks aside, is in a table. -/
def startsIn (table : Array (Stretch Unit)) (cs : List Char) : Bool :=
  (cs.dropWhile (Stretch.has transparent)).head?.any (Stretch.has table)

/-- Whether the characters that join or separate have something to do, after characters the last of
which comes first. -/
def joinersFit (before : List Char) : List Char → Bool
  | [] => true
  | c :: cs =>
      let isFit :=
        if c = joiner || c = separator then
          before.head?.any (combiningClass ·.toNat = viramaClass) ||
            (c = separator && startsIn joinsNext before && startsIn joinsPrevious cs)
        else true
      isFit && joinersFit (c :: before) cs

/-- How long a label beyond ASCII may be. -/
def maxLabelLength : Nat := 1000

/-- How long the ASCII spelling of a label may be. -/
def maxSpellingLength : Nat := 2000

def isAscii (cs : List Char) : Bool := cs.all (·.toNat < 0x80)

/-- Whether a text may be a label as far as marks and joining are concerned. -/
def isLabel (cs : List Char) : Bool :=
  isAscii cs ||
    (cs.length ≤ maxLabelLength && !cs.head?.any (Stretch.has marks) && joinersFit [] cs)

/-- The text that an announced spelling stands for. -/
def respelled? (refuses : Char → Bool) (spelling : List Char) : Option (List Char) :=
  if !isAscii spelling || maxSpellingLength < spelling.length ||
      spelling.getLast?.all (· = '-') then
    none
  else
    match Punycode.decode? spelling with
    | none => none
    | some text =>
        if text.all (fun c => isValid c && !refuses c) && composed text = text then some text
        else none

/-- Reads a label of a domain in which some characters are refused. -/
def readLabel? (refuses : Char → Bool) (cs : List Char) : Option (List Char) := do
  let text ← match cs with
    | 'x' :: 'n' :: '-' :: '-' :: spelling => respelled? refuses spelling
    | _ => some cs
  if isLabel text then some text else none

end Reminders.Domain
