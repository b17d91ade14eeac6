/-!
# UTF-8

What bytes spell. Bytes that cannot begin a character, or that begin one and are not followed by the
bytes it needs, are broken; bytes that end before the last character does are cut off. A text is
decoded strictly, where the first fault is reported, or leniently, where every fault counts as one
replacement character.
-/

namespace Reminders.Text.Utf8

inductive Piece where
  | char (c : Char)
  /-- So many bytes that are part of no character. -/
  | broken (width : Nat)
  /-- So many bytes at the end, with which a character only begins. -/
  | cutOff (width : Nat)
deriving DecidableEq, Repr

/-- A character of which some bytes have been read. -/
structure Partial where
  /-- How many bytes have been read. -/
  width : Nat
  /-- The number that they spell. -/
  value : Nat
  /-- The bounds of the bytes that must follow. -/
  pending : List (Nat × Nat)
deriving DecidableEq, Repr

/-- The bounds of a byte that continues a character. -/
def tail : Nat × Nat := (0x80, 0xBF)

/-- The character that a byte begins. -/
def begin? (b : Nat) : Option Partial :=
  if b < 0x80 then some ⟨1, b, []⟩
  else if 0xC2 ≤ b && b ≤ 0xDF then some ⟨1, b - 0xC0, [tail]⟩
  else if b = 0xE0 then some ⟨1, b - 0xE0, [(0xA0, 0xBF), tail]⟩
  else if b = 0xED then some ⟨1, b - 0xE0, [(0x80, 0x9F), tail]⟩
  else if 0xE1 ≤ b && b ≤ 0xEF then some ⟨1, b - 0xE0, [tail, tail]⟩
  else if b = 0xF0 then some ⟨1, b - 0xF0, [(0x90, 0xBF), tail, tail]⟩
  else if b = 0xF4 then some ⟨1, b - 0xF0, [(0x80, 0x8F), tail, tail]⟩
  else if 0xF1 ≤ b && b ≤ 0xF3 then some ⟨1, b - 0xF0, [tail, tail, tail]⟩
  else none

/-- The pieces that a character gives, and the character if it needs more bytes. -/
def settle : Option Partial → List Piece × Option Partial
  | none => ([.broken 1], none)
  | some ⟨_, value, []⟩ => ([.char (Char.ofNat value)], none)
  | some p => ([], some p)

/-- The pieces that end with a byte, and the character that goes on after it. -/
def step (current : Option Partial) (b : Nat) : List Piece × Option Partial :=
  match current with
  | some ⟨width, value, bounds :: pending⟩ =>
      if bounds.1 ≤ b && b ≤ bounds.2 then
        settle (some ⟨width + 1, 64 * value + (b - 0x80), pending⟩)
      else
        let (ended, next) := settle (begin? b)
        (.broken width :: ended, next)
  | _ => settle (begin? b)

/-- The pieces of bytes that follow those of an unfinished character. -/
def piecesAfter (current : Option Partial) : List UInt8 → List Piece
  | [] => (current.map fun p => Piece.cutOff p.width).toList
  | b :: bs =>
      let (ended, next) := step current b.toNat
      ended ++ piecesAfter next bs

def pieces (bytes : List UInt8) : List Piece := piecesAfter none bytes

structure Fault where
  /-- How many bytes are before the fault. -/
  start : Nat
  /-- How many bytes are broken; `none` if the last character is cut off. -/
  width : Option Nat
deriving DecidableEq, Repr

/-- The text that pieces make, after so many bytes. -/
def join (start : Nat) : List Piece → Except Fault (List Char)
  | [] => .ok []
  | .char c :: rest => (join (start + c.utf8Size) rest).map (c :: ·)
  | .broken width :: _ => .error ⟨start, some width⟩
  | .cutOff _ :: _ => .error ⟨start, none⟩

def decode (bytes : List UInt8) : Except Fault (List Char) := join 0 (pieces bytes)

/-- The character that a piece counts as when faults are let pass. -/
def Piece.lenient : Piece → Char
  | .char c => c
  | .broken _ | .cutOff _ => '\uFFFD'

def decodeLeniently (bytes : List UInt8) : List Char := (pieces bytes).map Piece.lenient

end Reminders.Text.Utf8
