import Reminders.Url.Basic

/-!
# Targets of requests

A request names what it asks for by a path, perhaps with a query and a fragment. A scheme and an
authority may stand before the path; they do not matter. A path that is left out is the root.
-/

namespace Reminders.Http

/-- What follows the scheme and the authority of a target, if it has them. -/
def afterAuthority? (target : List Char) : Option (List Char) :=
  match target.dropWhile Url.Scheme.isNameChar with
  | ':' :: '/' :: '/' :: rest => some (rest.dropWhile fun c => !(c = '/' || c = '?' || c = '#'))
  | _ => none

def targetPath (target : List Char) : List Char :=
  let inPath (c : Char) : Bool := c != '?' && c != '#'
  match afterAuthority? target with
  | none => target.takeWhile inPath
  | some rest =>
      match rest.takeWhile inPath with
      | [] => ['/']
      | path => path

end Reminders.Http
