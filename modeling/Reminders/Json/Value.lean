import Reminders.Text.Digit

/-!
# JSON values and their compact text

The values that the service writes. The compact form has no blank characters outside strings, keeps
the members of an object in order, and escapes in strings only the quote, the backslash and the
control characters below the space.
-/

namespace Reminders.Json

inductive Value where
  | flag (b : Bool)
  | text (s : String)
  | list (values : List Value)
  | object (members : List (String × Value))
deriving Repr

def escape (c : Char) : List Char :=
  match c with
  | '"' => ['\\', '"']
  | '\\' => ['\\', '\\']
  | '\x08' => ['\\', 'b']
  | '\t' => ['\\', 't']
  | '\n' => ['\\', 'n']
  | '\x0c' => ['\\', 'f']
  | '\r' => ['\\', 'r']
  | c => if c.toNat < 0x20 then '\\' :: 'u' :: Text.fixedDigits 16 4 c.toNat else [c]

def string (s : String) : List Char := '"' :: s.toList.flatMap escape ++ ['"']

namespace Value

mutual

def chars : Value → List Char
  | flag true => "true".toList
  | flag false => "false".toList
  | text s => string s
  | list values => '[' :: elements values ++ [']']
  | object ms => '\x7b' :: members ms ++ ['\x7d']

def elements : List Value → List Char
  | [] => []
  | [v] => v.chars
  | v :: vs => v.chars ++ ',' :: elements vs

def members : List (String × Value) → List Char
  | [] => []
  | [(name, v)] => string name ++ ':' :: v.chars
  | (name, v) :: ms => string name ++ ':' :: v.chars ++ ',' :: members ms

end

def render (v : Value) : String := String.ofList v.chars

end Value

end Reminders.Json
