import Reminders.Reminder.Handling

/-!
# The world of a running service

A running service works on a world: the tokens made so far, the time, a source of random bits, and a
store. Identifiers are made by drawing from the source one after the other.
-/

namespace Reminders

structure World (ρ : Type) where
  tokens : Tokens
  now : Timestamp
  /-- The random bits of each draw. -/
  entropy : Nat → BitVec 128
  /-- How often bits have been drawn. -/
  drawn : Nat
  store : ρ

namespace World

variable {ρ : Type}

instance : Cancellable (World ρ) := ⟨fun w => w.tokens.signals⟩

/-- Bits that differ from draw to draw, whatever the seed: steps by an odd number. -/
def spread (seed : BitVec 128) (n : Nat) : BitVec 128 :=
  seed + BitVec.ofNat 128 n * 0x9E3779B97F4A7C15F39CC0605CEDC835#128

def start (now : Timestamp) (seed : BitVec 128) (store : ρ) : World ρ :=
  ⟨.empty, now, spread seed, 0, store⟩

def draw : StateM (World ρ) (BitVec 128) :=
  modifyGet fun w => (w.entropy w.drawn, { w with drawn := w.drawn + 1 })

def freshId : StateM (World ρ) Uuid := do
  return .random (← draw)

/-- Makes a user id, which begins with the time. -/
def freshUser : StateM (World ρ) UserId := do
  let bits ← draw
  return ⟨.timed ((← get).now.millis).toNat bits⟩

def cancel (token : Token) (w : World ρ) : World ρ :=
  { w with tokens := { w.tokens with signals := w.tokens.signals.cancel token } }

def services (add : Signals → Reminder → Token → ρ → Except Failure Unit × ρ) :
    Services (World ρ) :=
  ⟨(·.now), freshId, .within (·.store) (fun store w => { w with store }) add⟩

@[simp] theorem signals_cancel (token : Token) (w : World ρ) :
    Cancellable.signals (w.cancel token) = (Cancellable.signals w).cancel token := rfl

@[simp] theorem run_freshId (w : World ρ) :
    freshId.run w = (.random (w.entropy w.drawn), { w with drawn := w.drawn + 1 }) := rfl

end World

end Reminders
