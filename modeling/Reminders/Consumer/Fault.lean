import Reminders.Failure
import Reminders.Text.Quoted

/-!
# Faults of consumer names

Why a consumer name cannot be formed: the pattern is badly written, one of its placeholders has no
value, or the result is no name. All of them are configuration failures.
-/

namespace Reminders.Consumer

open Text (quoted quotedChar)

/-- A defect in the writing of a pattern, at a byte offset where that is known. -/
inductive Defect where
  | empty
  | unmatched (close : Char) (offset : Nat)
  | unterminated (offset : Nat)
  | unrecognized (placeholder : List Char)
deriving DecidableEq, Repr

inductive Fault where
  | pattern (text : String) (defect : Defect)
  | emptyType
  | suffixOnly (typeName suffix : String)
  | missingAction (pattern : String)
  | missingVersion (pattern : String)
  | emptyVersion
  | malformedVersion (version : String)
  | emptyName
  | blankName (name : String)
deriving DecidableEq, Repr

def Defect.message (text : String) : Defect → String
  | empty => "consumer name pattern is empty"
  | unmatched close offset =>
      "unmatched " ++ quotedChar close ++ " at offset " ++ toString offset ++ " in pattern " ++
        quoted text
  | unterminated offset =>
      "unterminated placeholder at offset " ++ toString offset ++ " in pattern " ++ quoted text
  | unrecognized placeholder =>
      "unrecognized token " ++ String.ofList placeholder ++ " in pattern " ++ quoted text

namespace Fault

def message : Fault → String
  | pattern text defect => defect.message text
  | emptyType => "declaring type name is empty"
  | suffixOnly typeName suffix =>
      "declaring type " ++ quoted typeName ++ " has no name left after removing " ++ quoted suffix
  | missingAction text =>
      "pattern " ++ quoted text ++ " references [action] but no action was supplied"
  | missingVersion text =>
      "pattern " ++ quoted text ++
        " references \x7bversion:apiVersion\x7d but no version was supplied"
  | emptyVersion => "api version is empty"
  | malformedVersion version => "api version " ++ quoted version ++ " is malformed"
  | emptyName => "resolved consumer name is empty"
  | blankName name => "resolved consumer name " ++ quoted name ++ " contains whitespace"

def failure (f : Fault) : Failure := .configuration f.message

@[simp] theorem failure_eq (f : Fault) : f.failure = .configuration f.message := rfl

end Fault

end Reminders.Consumer
