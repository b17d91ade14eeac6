import Reminders.Expression.Mode
import Reminders.Text.Digit

/-!
# Atoms of expressions

The smallest parts of a regular expression, and which of them may stand where. A backslash stands
before a character that means something else on its own, before a letter that names a character, an
end or a class, or before the number of a character in base sixteen.

What an expression matches has to be text, and no tables of Unicode are at hand. So a byte that is
no ASCII character stands nowhere; nor does a class with a letter, the end of a word or a character
whose case does not matter, unless characters are bytes.
-/

namespace Reminders.Expression

open Text (hexadecimal?)

/-- The smallest parts of an expression. -/
inductive Atom where
  | character (c : Char)
  /-- A character that is given by a number of two digits, and so may be meant as a byte. -/
  | byte (c : Char)
  /-- Any character. -/
  | any
  /-- A class that has a letter, or what is not in it. -/
  | named (negated : Bool)
  /-- An end of the text or of a line. -/
  | edge
  /-- An end of a word. -/
  | wordEdge
deriving DecidableEq, Repr

def isAscii (c : Char) : Bool := c.toNat < 0x80

namespace Mode

/-- Whether a class that has a name may be used, or what is not in it. -/
def admitsNamed (m : Mode) (negated : Bool) : Bool := !m.unicode && !negated

/-- Whether a character may be a member of a class. -/
def admitsInClass (m : Mode) (c : Char) : Bool := if m.unicode then !m.caseless else isAscii c

/-- Whether an atom may stand outside of classes. -/
def admits (m : Mode) : Atom → Bool
  | .character c => !m.caseless || (!m.unicode && isAscii c)
  | .byte c => if m.unicode then !m.caseless else isAscii c
  | .any => m.unicode
  | .named negated => m.admitsNamed negated
  | .edge => true
  | .wordEdge => !m.unicode

def admitsMember (m : Mode) : Atom → Bool
  | .character c | .byte c => m.admitsInClass c
  | .named negated => m.admitsNamed negated
  | .any | .edge | .wordEdge => false

end Mode

/-- The character with a number. -/
def character? (n : Nat) : Option Char :=
  if n < 0xD800 || (0xDFFF < n && n < 0x110000) then some (Char.ofNat n) else none

/-- Reads so many digits in base sixteen, after those already read into `n`, and the character with
their number. -/
def readNumber? (m : Mode) (n : Nat) : (width : Nat) → List Char → Option (Char × List Char)
  | 0, cs => (character? n).map fun c => (c, cs)
  | width + 1, cs =>
      match m.skip cs with
      | [] => none
      | c :: cs =>
          match hexadecimal? c with
          | none => none
          | some d => readNumber? m (16 * n + d) width cs

/-- Reads what follows a backslash. -/
def readEscape? (m : Mode) : List Char → Option (Atom × List Char)
  | [] => none
  | 'x' :: cs => (readNumber? m 0 2 cs).map fun p => (.byte p.1, p.2)
  | 'u' :: cs => (readNumber? m 0 4 cs).map fun p => (.character p.1, p.2)
  | 'U' :: cs => (readNumber? m 0 8 cs).map fun p => (.character p.1, p.2)
  | 'a' :: cs => some (.character '\x07', cs)
  | 'f' :: cs => some (.character '\x0c', cs)
  | 'n' :: cs => some (.character '\n', cs)
  | 'r' :: cs => some (.character '\r', cs)
  | 't' :: cs => some (.character '\t', cs)
  | 'v' :: cs => some (.character '\x0b', cs)
  | c :: cs =>
      if c = 'd' || c = 's' || c = 'w' then some (.named false, cs)
      else if c = 'D' || c = 'S' || c = 'W' then some (.named true, cs)
      else if c = 'A' || c = 'z' then some (.edge, cs)
      else if c = 'b' || c = 'B' || c = '<' || c = '>' then some (.wordEdge, cs)
      else if c.isAlphanum || !isAscii c then none
      else some (.character c, cs)

/-- Reads an atom outside of classes. -/
def readAtom? (m : Mode) : List Char → Option (Atom × List Char)
  | [] => none
  | '\\' :: cs => readEscape? m cs
  | '.' :: cs => some (.any, cs)
  | '^' :: cs => some (.edge, cs)
  | '$' :: cs => some (.edge, cs)
  | c :: cs => some (.character c, cs)

/-- Reads an atom in a class, where fewer characters have a meaning of their own. -/
def readMember? (m : Mode) : List Char → Option (Atom × List Char)
  | [] => none
  | '\\' :: cs => readEscape? m cs
  | c :: cs => some (.character c, cs)

theorem length_of_readNumber? {m : Mode} {n width : Nat} {cs rest : List Char} {c : Char}
    (h : readNumber? m n width cs = some (c, rest)) : rest.length ≤ cs.length := by
  induction width generalizing n cs with
  | zero =>
      obtain ⟨_, _, hr⟩ := Option.map_eq_some_iff.1 h
      exact Nat.le_of_eq (congrArg (fun p => p.2.length) hr).symm
  | succ width ih =>
      rw [readNumber?] at h
      split at h
      · simp at h
      · next hs =>
          split at h
          · simp at h
          · exact Nat.le_of_lt (Nat.lt_of_le_of_lt (ih h) (Mode.length_lt_of_skip hs))

theorem length_of_some_eq {α : Type} {a b : α} {cs rest : List Char}
    (h : some (b, cs) = some (a, rest)) : rest.length < cs.length + 1 := by
  simp only [Option.some.injEq, Prod.mk.injEq] at h
  exact Nat.lt_succ_of_le (Nat.le_of_eq (congrArg List.length h.2).symm)

theorem length_of_readEscape? {m : Mode} {cs rest : List Char} {a : Atom}
    (h : readEscape? m cs = some (a, rest)) : rest.length < cs.length := by
  have number {width : Nat} {f : Char × List Char → Atom} {cs : List Char}
      (h : (readNumber? m 0 width cs).map (fun p => (f p, p.2)) = some (a, rest)) :
      rest.length < cs.length + 1 := by
    obtain ⟨p, hp, hr⟩ := Option.map_eq_some_iff.1 h
    simp only [Prod.mk.injEq] at hr
    exact Nat.lt_succ_of_le (hr.2 ▸ length_of_readNumber? hp)
  unfold readEscape? at h
  split at h
  · simp at h
  · exact number h
  · exact number h
  · exact number h
  · exact length_of_some_eq h
  · exact length_of_some_eq h
  · exact length_of_some_eq h
  · exact length_of_some_eq h
  · exact length_of_some_eq h
  · exact length_of_some_eq h
  · split at h
    · exact length_of_some_eq h
    · split at h
      · exact length_of_some_eq h
      · split at h
        · exact length_of_some_eq h
        · split at h
          · exact length_of_some_eq h
          · split at h
            · simp at h
            · exact length_of_some_eq h

theorem length_of_readMember? {m : Mode} {cs rest : List Char} {a : Atom}
    (h : readMember? m cs = some (a, rest)) : rest.length < cs.length := by
  unfold readMember? at h
  split at h
  · simp at h
  · exact Nat.lt_succ_of_lt (length_of_readEscape? h)
  · exact length_of_some_eq h

theorem length_of_readAtom? {m : Mode} {cs rest : List Char} {a : Atom}
    (h : readAtom? m cs = some (a, rest)) : rest.length < cs.length := by
  unfold readAtom? at h
  split at h
  · simp at h
  · exact Nat.lt_succ_of_lt (length_of_readEscape? h)
  · exact length_of_some_eq h
  · exact length_of_some_eq h
  · exact length_of_some_eq h
  · exact length_of_some_eq h

end Reminders.Expression
