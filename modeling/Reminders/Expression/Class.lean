import Reminders.Expression.Atom
import Reminders.Expression.Depth

/-!
# Classes of characters

A class stands between brackets. Its members are characters, ranges between two characters, named
classes and further classes between brackets, and two sets of members have an operator between them:
`&&`, `--` or `~~`. Hyphens in front are members, and so is a closing bracket that comes first.
-/

namespace Reminders.Expression

open Text (isBlank)

def classNames : List String :=
  ["alnum", "alpha", "ascii", "blank", "cntrl", "digit", "graph", "lower", "print", "punct",
    "space", "upper", "word", "xdigit"]

/-- Whether there is a caret, which negates a class, and what follows it. -/
def readCaret : List Char → Bool × List Char
  | '^' :: cs => (true, cs)
  | cs => (false, cs)

/-- Reads a named class after its first bracket, as in `[:digit:]` or, for what is not in it,
`[:^digit:]`. The result tells whether it is negated. -/
def readNamed? : List Char → Option (Bool × List Char)
  | ':' :: cs =>
      match readCaret cs with
      | (negated, cs) =>
          match cs.dropWhile (· != ':') with
          | ':' :: ']' :: rest =>
              if classNames.contains (String.ofList (cs.takeWhile (· != ':'))) then
                some (negated, rest)
              else none
          | _ => none
  | _ => none

def Mode.admitsNamedMember (m : Mode) (negated : Bool) : Bool :=
  if m.unicode then !m.caseless else !negated

structure OpenClass where
  /-- The depth of what is before the last operator. -/
  left : Option Nat
  /-- The members after it. -/
  members : Row
deriving DecidableEq, Repr

namespace OpenClass

def start (members : Row) : OpenClass := ⟨none, members⟩

/-- The depth of all that is in a class. -/
def content (c : OpenClass) : Nat :=
  match c.left with
  | none => c.members.total
  | some left => max left c.members.total + 1

def depth (c : OpenClass) : Nat := c.content + 1

def add (c : OpenClass) (depth : Nat) : OpenClass := { c with members := c.members.add depth }

def operated (c : OpenClass) : OpenClass := ⟨some c.content, .empty⟩

end OpenClass

def readHyphens (m : Mode) (members : Row) (cs : List Char) : Row × List Char :=
  match _h : m.skip cs with
  | '-' :: rest => readHyphens m (members.add 0) rest
  | rest => (members, rest)
termination_by cs.length
decreasing_by exact Mode.length_lt_of_skip _h

/-- Reads the front of a class after its bracket. -/
def openClass? (m : Mode) (cs : List Char) : Option (OpenClass × List Char) :=
  match readCaret (m.skip cs) with
  | (negated, cs) =>
      if negated && !m.unicode then none
      else
        match readHyphens m .empty cs with
        | (⟨0, _⟩, ']' :: cs) =>
            if m.admitsInClass ']' then some (.start (Row.empty.add 0), cs) else none
        | (⟨0, _⟩, cs) => some (.start .empty, cs)
        | (members, cs) => if m.admitsInClass '-' then some (.start members, cs) else none

/-- The character after a hyphen that tells whether a range goes on. A single `#` is passed over
together with blanks, but no comment is. -/
def Mode.peek? (m : Mode) (cs : List Char) : Option Char :=
  if m.spaced then
    match cs.dropWhile isBlank with
    | '#' :: cs => (cs.dropWhile isBlank).head?
    | cs => cs.head?
  else cs.head?

def isRange (m : Mode) : Atom → Atom → Bool
  | .character c, .character d | .character c, .byte d | .byte c, .character d | .byte c, .byte d =>
      c ≤ d && m.admitsInClass c && m.admitsInClass d
  | _, _ => false

/-- Passes over a member or a range. -/
def dropMember? (m : Mode) (cs : List Char) : Option (List Char) :=
  match readMember? m cs with
  | none => none
  | some (first, cs) =>
      match m.skip cs with
      | '-' :: cs =>
          if m.peek? cs = some ']' || m.peek? cs = some '-' then
            if m.admitsMember first then some ('-' :: cs) else none
          else
            match readMember? m (m.skip cs) with
            | none => none
            | some (last, cs) => if isRange m first last then some cs else none
      | cs => if m.admitsMember first then some cs else none

theorem length_readCaret_le (cs : List Char) : (readCaret cs).2.length ≤ cs.length := by
  unfold readCaret
  split
  · exact Nat.le_succ _
  · exact Nat.le_refl _

theorem length_of_readNamed? {cs rest : List Char} {negated : Bool}
    (h : readNamed? cs = some (negated, rest)) : rest.length < cs.length := by
  unfold readNamed? at h
  split at h
  · next cs =>
      split at h
      next named hc =>
        have hs := length_readCaret_le cs
        have hl := (List.dropWhile_sublist (l := named) (· != ':')).length_le
        rw [hc] at hs
        split at h
        · next hd =>
            split at h
            · have := length_of_some_eq h
              rw [hd] at hl
              simp only [List.length_cons] at *
              omega
            · simp at h
        · simp at h
  · simp at h

theorem length_readHyphens_le (m : Mode) (members : Row) (cs : List Char) :
    (readHyphens m members cs).2.length ≤ cs.length := by
  fun_induction readHyphens m members cs with
  | case1 _ _ _ h ih => exact Nat.le_of_lt (Nat.lt_of_le_of_lt ih (Mode.length_lt_of_skip h))
  | case2 cs => exact m.length_skip_le _

theorem length_of_openClass? {m : Mode} {cs rest : List Char} {c : OpenClass}
    (h : openClass? m cs = some (c, rest)) : rest.length ≤ cs.length := by
  unfold openClass? at h
  split at h
  next negated cs' hc =>
    have hs := length_readCaret_le (m.skip cs)
    have hl := m.length_skip_le cs
    have hh := length_readHyphens_le m .empty cs'
    rw [hc] at hs
    split at h
    · simp at h
    · split at h
      · next hr =>
          rw [hr] at hh
          split at h
          · have := length_of_some_eq h
            simp only [List.length_cons] at *
            omega
          · simp at h
      · next hr =>
          rw [hr] at hh
          have := length_of_some_eq h
          simp only at *
          omega
      · next hr =>
          rw [hr] at hh
          split at h
          · have := length_of_some_eq h
            simp only at *
            omega
          · simp at h

theorem length_of_dropMember? {m : Mode} {cs rest : List Char}
    (h : dropMember? m cs = some rest) : rest.length < cs.length := by
  unfold dropMember? at h
  split at h
  · simp at h
  · next first cs' hf =>
      have := length_of_readMember? hf
      have hs := m.length_skip_le cs'
      split at h
      · next cs'' hc =>
          rw [hc] at hs
          have hs' := m.length_skip_le cs''
          split at h
          · split at h
            · rw [← Option.some.inj h]
              omega
            · simp at h
          · split at h
            · simp at h
            · next last cs3 hl =>
                have := length_of_readMember? hl
                split at h
                · rw [← Option.some.inj h]
                  simp only [List.length_cons] at hs
                  omega
                · simp at h
      · split at h
        · rw [← Option.some.inj h]
          omega
        · simp at h

/-- Reads on in a class inside of others, the innermost first, up to the end of the outermost one.
The result is the depth of that one. -/
def readOpen? (m : Mode) (c : OpenClass) (outer : List OpenClass) (text : List Char) :
    Option (Nat × List Char) :=
  match _h : m.skip text with
  | [] => none
  | '[' :: cs =>
      match _hn : readNamed? cs with
      | some (negated, cs) =>
          if m.admitsNamedMember negated then readOpen? m (c.add 0) outer cs else none
      | none =>
          match _ho : openClass? m cs with
          | none => none
          | some (inner, cs) => readOpen? m inner (c :: outer) cs
  | ']' :: cs =>
      match outer with
      | [] => some (c.depth, cs)
      | around :: outer => readOpen? m (around.add c.depth) outer cs
  | '&' :: '&' :: cs => readOpen? m c.operated outer cs
  | '-' :: '-' :: cs => readOpen? m c.operated outer cs
  | '~' :: '~' :: cs => readOpen? m c.operated outer cs
  | cs =>
      match _hd : dropMember? m cs with
      | none => none
      | some cs => readOpen? m (c.add 0) outer cs
termination_by text.length
decreasing_by
  · have := Mode.length_lt_of_skip _h
    have := length_of_readNamed? _hn
    omega
  · have := Mode.length_lt_of_skip _h
    have := length_of_openClass? _ho
    omega
  · exact Mode.length_lt_of_skip _h
  · exact Nat.lt_of_succ_lt (Mode.length_lt_of_skip _h)
  · exact Nat.lt_of_succ_lt (Mode.length_lt_of_skip _h)
  · exact Nat.lt_of_succ_lt (Mode.length_lt_of_skip _h)
  · have := m.length_skip_le text
    have := length_of_dropMember? _hd
    rw [_h] at *
    omega

theorem length_of_readOpen? {m : Mode} {c : OpenClass} {outer : List OpenClass}
    {text rest : List Char} {depth : Nat} (h : readOpen? m c outer text = some (depth, rest)) :
    rest.length < text.length := by
  fun_induction readOpen? m c outer text with
  | case1 | case3 | case4 | case11 => simp at h
  | case2 _ _ _ _ hs _ _ hn _ ih =>
      have := Mode.length_lt_of_skip hs
      have := length_of_readNamed? hn
      have := ih h
      omega
  | case5 _ _ _ _ hs _ _ _ ho ih =>
      have := Mode.length_lt_of_skip hs
      have := length_of_openClass? ho
      have := ih h
      omega
  | case6 _ _ _ hs =>
      have := Mode.length_lt_of_skip hs
      have := length_of_some_eq h
      omega
  | case7 _ _ _ hs _ _ ih => exact Nat.lt_trans (ih h) (Mode.length_lt_of_skip hs)
  | case8 _ _ _ _ hs ih | case9 _ _ _ _ hs ih | case10 _ _ _ _ hs ih =>
      exact Nat.lt_trans (ih h) (Nat.lt_of_succ_lt (Mode.length_lt_of_skip hs))
  | case12 _ _ text _ _ _ _ _ _ _ hd ih =>
      have := m.length_skip_le text
      have := length_of_dropMember? hd
      have := ih h
      omega

/-- Reads a class after its bracket. The result is its depth. -/
def readClass? (m : Mode) (cs : List Char) : Option (Nat × List Char) :=
  match openClass? m cs with
  | none => none
  | some (c, cs) => readOpen? m c [] cs

theorem length_of_readClass? {m : Mode} {cs rest : List Char} {depth : Nat}
    (h : readClass? m cs = some (depth, rest)) : rest.length < cs.length := by
  unfold readClass? at h
  split at h
  · simp at h
  · next ho => exact Nat.lt_of_lt_of_le (length_of_readOpen? h) (length_of_openClass? ho)

end Reminders.Expression
