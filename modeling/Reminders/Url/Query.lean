import Reminders.Text.Split
import Reminders.Url.Percent

/-!
# Queries of URLs

A query is a list of parameters between ampersands, each with a name and, after the first equals
sign, a value. A plus sign stands for a space. Empty parameters count as none.
-/

namespace Reminders.Url

/-- The text that a part of a parameter stands for. -/
def decodeParameter (cs : List Char) : String :=
  String.ofList (decodeLeniently (cs.map fun c => if c = '+' then ' ' else c))

/-- The name and the value that a parameter has. -/
def readParameter (cs : List Char) : String × String :=
  let inName (c : Char) : Bool := c != '='
  (decodeParameter (cs.takeWhile inName), decodeParameter ((cs.dropWhile inName).drop 1))

def readQuery (cs : List Char) : List (String × String) :=
  ((Text.splitOn '&' cs).filter (!·.isEmpty)).map readParameter

end Reminders.Url
