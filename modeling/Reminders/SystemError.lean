/-!
# Errors of the system

What the operating system answers when it refuses something, and why some requests are not even put
to it.
-/

namespace Reminders

inductive SystemError where
  | noSuchFile
  | noSuchDevice
  | notDirectory
  | invalidArgument
  | addressNotAvailable
  /-- The path of a socket has a null character in it. -/
  | nullInPath
  /-- The path of a socket is longer than the address of a socket can be. -/
  | longPath
  /-- The name of a host has a null character in it. -/
  | nullInName
deriving DecidableEq, Repr

namespace SystemError

/-- The number of an error. The system is not asked for what it cannot be told. -/
def code? : SystemError → Option Nat
  | noSuchFile => some 2
  | noSuchDevice => some 19
  | notDirectory => some 20
  | invalidArgument => some 22
  | addressNotAvailable => some 99
  | nullInPath | longPath | nullInName => none

def kind : SystemError → String
  | noSuchFile => "NotFound"
  | noSuchDevice => "Uncategorized"
  | notDirectory => "NotADirectory"
  | invalidArgument | nullInPath | longPath | nullInName => "InvalidInput"
  | addressNotAvailable => "AddrNotAvailable"

def wording : SystemError → String
  | noSuchFile => "No such file or directory"
  | noSuchDevice => "No such device"
  | notDirectory => "Not a directory"
  | invalidArgument => "Invalid argument"
  | addressNotAvailable => "Cannot assign requested address"
  | nullInPath => "paths must not contain interior null bytes"
  | longPath => "path must be shorter than SUN_LEN"
  | nullInName => "file name contained an unexpected NUL byte"

def message (e : SystemError) : String :=
  match e.code? with
  | some code => e.wording ++ " (os error " ++ toString code ++ ")"
  | none => e.wording

def report (e : SystemError) : String :=
  let start := match e.code? with
    | some code => "Os \x7b code: " ++ toString code ++ ", "
    | none => "Error \x7b "
  start ++ "kind: " ++ e.kind ++ ", message: \"" ++ e.wording ++ "\" \x7d"

end SystemError

end Reminders
