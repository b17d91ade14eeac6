import Reminders.Consumer.Name
import Reminders.Consumer.Pattern
import Reminders.Consumer.Version

/-!
# Resolution of consumer names

Resolving a pattern puts a value in the place of each placeholder, from left to right, and accepts
the result as a name. The first placeholder without a value decides the fault; whether the result is
a name is asked last. The value of the controller placeholder is the declaring type's base name: the
part after its last `::`, without one conventional suffix.
-/

namespace Reminders.Consumer

open Text (dropSuffix?)

structure Setting where
  /-- The declaring type's name, possibly qualified with `::`. -/
  declaringType : String
  action : Option String
  version : Option String
deriving DecidableEq, Repr

/-- The suffixes that a declaring type's base name goes without, the longer one first. -/
def conventionalSuffixes : List String := ["EventController", "Controller"]

/-- What precedes the first double colon. -/
def beforeQualifier : List Char → List Char
  | [] => []
  | ':' :: ':' :: _ => []
  | c :: cs => c :: beforeQualifier cs

/-- What follows the last double colon. -/
def unqualified (cs : List Char) : List Char := (beforeQualifier cs.reverse).reverse

def baseName (typeName : String) : Except Fault (List Char) :=
  let simple := unqualified typeName.toList
  if simple.isEmpty then .error .emptyType
  else
    match conventionalSuffixes.findSome? fun suffix =>
        (dropSuffix? suffix.toList simple).map fun base => (suffix, base) with
    | none => .ok simple
    | some (suffix, []) => .error (.suffixOnly (String.ofList simple) suffix)
    | some (_, base) => .ok base

namespace Placeholder

/-- The value of a placeholder of the pattern `text`. An empty action counts as none. -/
def value (text : String) (setting : Setting) : Placeholder → Except Fault (List Char)
  | controller => baseName setting.declaringType
  | action =>
      match setting.action with
      | none => .error (.missingAction text)
      | some name => if name = "" then .error (.missingAction text) else .ok name.toList
  | version =>
      match setting.version with
      | none => .error (.missingVersion text)
      | some number => Version.format number

end Placeholder

namespace Segment

def value (text : String) (setting : Setting) : Segment → Except Fault (List Char)
  | literal cs => .ok cs
  | placeholder p => p.value text setting

def values (text : String) (setting : Setting) : List Segment → Except Fault (List Char)
  | [] => .ok []
  | s :: segments => do
      let front ← s.value text setting
      let rest ← values text setting segments
      return front ++ rest

end Segment

/-- The consumer name that a pattern gives in a setting. -/
def Pattern.resolve (pattern : Pattern) (setting : Setting) : Except Fault Name := do
  let cs ← Segment.values pattern.text setting pattern.segments
  Name.ofText (String.ofList cs)

/-- Reads a pattern and resolves it. -/
def resolve (text : String) (setting : Setting) : Except Fault Name := do
  let pattern ← Pattern.parse text
  pattern.resolve setting

/-- A subscriber's declaring type and the pattern of its names. -/
structure Declaration where
  declaringType : String
  pattern : String
deriving DecidableEq, Repr

/-- The consumer name of a declaration for one action. The pattern is read only here. -/
def Declaration.resolve (declaration : Declaration) (action version : Option String) :
    Except Fault Name :=
  Consumer.resolve declaration.pattern ⟨declaration.declaringType, action, version⟩

end Reminders.Consumer
