import Reminders.Text.Split
import Reminders.Url.Basic

/-!
# Paths of URLs

A path is a list of segments between slashes. A segment of one dot stands for nothing, and one of
two dots takes the segment before it away, unless that names a drive; at the end of a path, both
leave an empty segment behind. A dot in such a segment may be escaped. The path of a file may start
with a drive, whose mark is a colon. Tabs and line breaks in a path do not count, but that they keep
such a drive apart from what follows it.
-/

namespace Reminders.Url

/-- Whether a character of a URL counts. Tabs and line breaks do not. -/
def counts (c : Char) : Bool := c != '\t' && c != '\n' && c != '\r'

/-- A text with its escaped dots in plain. -/
def plainDots : List Char → List Char
  | '%' :: '2' :: 'e' :: cs => '.' :: plainDots cs
  | '%' :: '2' :: 'E' :: cs => '.' :: plainDots cs
  | c :: cs => c :: plainDots cs
  | [] => []

/-- Whether a segment names a drive: it is a letter with a colon or a bar. -/
def isDrive : List Char → Bool
  | [c, mark] => c.isAlpha && (mark = ':' || mark = '|')
  | _ => false

/-- Whether two dots do not take a segment away: it is a drive, or one before a backslash. -/
def isFirm : List Char → Bool
  | c :: mark :: rest => isDrive [c, mark] && rest.head?.all (· = '\\')
  | _ => false

/-- The parts of a segment that starts with a drive and, after a tab or a line break, goes on. The
drive keeps a tab, so that it is not one that the machine itself has. -/
def splitDrive? (segment : List Char) : Option (List Char × List Char) :=
  let skip (cs : List Char) : List Char := cs.dropWhile fun c => !counts c
  match skip segment with
  | [] => none
  | c :: cs =>
      match skip cs with
      | ':' :: cs =>
          if c.isAlpha && cs.head?.any (!counts ·) && cs.any counts then
            some ([c, ':', '\t'], skip cs)
          else none
      | _ => none

/-- The segments before the next one, once a segment has been put after them. The last one comes
first. -/
def kept (scheme : Scheme) (before : List (List Char)) (segment : List Char) : List (List Char) :=
  let plain := segment.filter counts
  if scheme = .file && before.isEmpty then
    match splitDrive? segment with
    | some (drive, rest) => [rest.filter counts, drive]
    | none => [if isDrive plain then plain.take 1 ++ [':'] else plain]
  else plain :: before

/-- The segments of a path after those before it, the last of which comes first. -/
def settleSegments (scheme : Scheme) (before : List (List Char)) :
    List (List Char) → List (List Char)
  | [] => before.reverse
  | segment :: rest =>
      let dots := plainDots (segment.filter counts)
      let isUp := dots = ['.', '.']
      let isHere := dots = ['.']
      let after :=
        if isUp then
          if before.head?.any fun last => isFirm (last.filter counts) then before else before.tail
        else if isHere then before
        else kept scheme before segment
      settleSegments scheme (if (isUp || isHere) && rest.isEmpty then [] :: after else after) rest

/-- The segments that a text gives as a path, of which there are none only if the path may be empty.
-/
def readSegments (scheme : Scheme) (cs : List Char) : List (List Char) :=
  match cs.map fun c => if scheme.isSlash c then '/' else c with
  | [] => if scheme = .other then [] else [[]]
  | '/' :: cs => settleSegments scheme [] (Text.splitOn '/' cs)
  | cs => settleSegments scheme [] (Text.splitOn '/' cs)

def pathOf (segments : List (List Char)) : List Char :=
  segments.flatMap fun segment => '/' :: segment.filter counts

end Reminders.Url
