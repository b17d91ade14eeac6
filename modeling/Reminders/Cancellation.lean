import Reminders.Failure

/-!
# Cancellation

A token stands for one cancellable undertaking. `Signals` records which tokens have been cancelled;
nothing takes a cancellation back. `Tokens` adds names to that: several names may denote one token,
a name may be bound again, and a token that is made anew is never one that was made before.
-/

namespace Reminders

/-- A handle on a cancellable undertaking. -/
structure Token where
  id : Nat
deriving DecidableEq, Hashable, Repr

structure Signals where
  fired : List Token
deriving DecidableEq, Repr

namespace Signals

def empty : Signals := ⟨[]⟩

instance : Inhabited Signals := ⟨empty⟩

def isCancelled (signals : Signals) (token : Token) : Bool := signals.fired.contains token

def cancel (signals : Signals) (token : Token) : Signals := ⟨token :: signals.fired⟩

def check (signals : Signals) (token : Token) : Except Failure Unit :=
  if signals.isCancelled token then .error .cancelled else .ok ()

@[simp] theorem isCancelled_empty (token : Token) : empty.isCancelled token = false := rfl

@[simp] theorem isCancelled_cancel (signals : Signals) (token other : Token) :
    (signals.cancel token).isCancelled other =
      (decide (other = token) || signals.isCancelled other) := by
  simp [isCancelled, cancel]

end Signals

structure Tokens where
  /-- How many tokens have been made. -/
  made : Nat
  /-- The names in use, the latest binding of a name first. -/
  names : List (String × Token)
  signals : Signals
deriving DecidableEq, Repr

namespace Tokens

def empty : Tokens := ⟨0, [], .empty⟩

instance : Inhabited Tokens := ⟨empty⟩

/-- The token that a name denotes. -/
def get? (tokens : Tokens) (name : String) : Option Token := tokens.names.lookup name

/-- Makes a name denote a token. -/
def bind (tokens : Tokens) (name : String) (token : Token) : Tokens :=
  { tokens with names := (name, token) :: tokens.names }

/-- Makes a token under a name, which may have denoted another token until then. -/
def create (tokens : Tokens) (name : String) : Tokens :=
  { tokens with made := tokens.made + 1 }.bind name ⟨tokens.made⟩

/-- The token of a name, made if there is none yet. -/
def obtain (tokens : Tokens) (name : String) : Token × Tokens :=
  match tokens.get? name with
  | some token => (token, tokens)
  | none => (⟨tokens.made⟩, tokens.create name)

/-- Gives the token of one name to another name as well. -/
def clone (tokens : Tokens) (name other : String) : Tokens :=
  match tokens.get? name with
  | some token => tokens.bind other token
  | none => tokens

def cancel (tokens : Tokens) (name : String) : Tokens :=
  match tokens.get? name with
  | some token => { tokens with signals := tokens.signals.cancel token }
  | none => tokens

/-- Whether the token of a name is cancelled. -/
def isCancelled (tokens : Tokens) (name : String) : Bool :=
  match tokens.get? name with
  | some token => tokens.signals.isCancelled token
  | none => false

def check (tokens : Tokens) (name : String) : Except Failure Unit :=
  if tokens.isCancelled name then .error .cancelled else .ok ()

@[simp] theorem get?_bind_self (tokens : Tokens) (name : String) (token : Token) :
    (tokens.bind name token).get? name = some token := by
  simp [get?, bind]

theorem get?_bind_of_ne (tokens : Tokens) {name other : String} (h : other ≠ name)
    (token : Token) : (tokens.bind name token).get? other = tokens.get? other := by
  have : (other == name) = false := by simpa using h
  simp [get?, bind, List.lookup_cons, this]

@[simp] theorem get?_create_self (tokens : Tokens) (name : String) :
    (tokens.create name).get? name = some ⟨tokens.made⟩ := by
  simp [create]

end Tokens

end Reminders
