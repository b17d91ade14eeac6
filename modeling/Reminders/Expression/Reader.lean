import Reminders.Expression.Class
import Reminders.Text.Letter

/-!
# Regular expressions

Which texts are regular expressions. Parentheses must match, every repetition needs something to
repeat, names of groups must differ, and no part may lie too deep. A group may have a name, as in
`(?<name>a)` or `(?P<name>a)`, or flags, as in `(?i-s:a)`; flags without a group, as in `(?i)`, hold
for the rest of the group around them. Repetitions with a count between braces are not known.
-/

namespace Reminders.Expression

open Text (isAlphanumeric isLetter)

/-- A group that is open, or the whole expression, as far as it has been read. -/
structure Level where
  mode : Mode
  /-- The alternatives that are complete. -/
  branches : Row
  /-- What follows each other in the last alternative. -/
  items : Row
  /-- The depth of the last item, if it may be repeated. -/
  last : Option Nat
deriving DecidableEq, Repr

namespace Level

def start (m : Mode) : Level := ⟨m, .empty, .empty, none⟩

/-- Adds an item of some depth. -/
def put (l : Level) (depth : Nat) : Level :=
  { l with items := l.items.add depth, last := some depth }

/-- Adds flags, after which the mode is another one. -/
def turn (l : Level) (mode : Mode) : Level :=
  { l with mode := mode, items := l.items.add 0, last := none }

/-- Ends an alternative. -/
def branch (l : Level) : Level :=
  { l with branches := l.branches.add l.items.total, items := .empty, last := none }

/-- Repeats the last item. -/
def again? (l : Level) : Option Level :=
  l.last.map fun depth =>
    { l with items := l.items.deepen (depth + 1), last := some (depth + 1) }

def depth (l : Level) : Nat := l.branch.branches.total

end Level

/-- An expression as far as it has been read. -/
structure Reading where
  level : Level
  /-- The levels around it, the innermost first. -/
  outer : List Level
  /-- The names of groups. -/
  names : List String
deriving DecidableEq, Repr

def isNameCharacter (c : Char) : Bool :=
  c = '_' || c = '.' || c = '[' || c = ']' || isAlphanumeric c

def readName? (cs : List Char) : Option (String × List Char) :=
  match cs.takeWhile (· != '>'), cs.dropWhile (· != '>') with
  | c :: more, _ :: rest =>
      if (c = '_' || isLetter c) && more.all isNameCharacter then
        some (String.ofList (c :: more), rest)
      else none
  | _, _ => none

theorem length_of_readName? {cs rest : List Char} {name : String}
    (h : readName? cs = some (name, rest)) : rest.length < cs.length := by
  unfold readName? at h
  have hl := (List.dropWhile_sublist (l := cs) (· != '>')).length_le
  split at h
  · next hd =>
      split at h
      · have := length_of_some_eq h
        rw [hd] at hl
        simp only [List.length_cons] at hl
        omega
      · simp at h
  · simp at h

/-- Whether names differ from each other. -/
def differ (names : List String) : Bool :=
  let sorted := names.mergeSort fun a b => a ≤ b
  (sorted.zip sorted.tail).all fun p => p.1 != p.2

namespace Reading

def start : Reading := ⟨.start .initial, [], []⟩

/-- Adds an item of some depth. -/
def put (r : Reading) (depth : Nat) : Reading := { r with level := r.level.put depth }

/-- Opens a group. -/
def enter (r : Reading) (mode : Mode) : Reading :=
  { r with level := .start mode, outer := r.level :: r.outer }

/-- Closes a group. What its flags have changed is as before. -/
def leave? (r : Reading) : Option Reading :=
  match r.outer with
  | [] => none
  | around :: outer => some { r with level := around.put (r.level.depth + 1), outer := outer }

/-- Opens a group with a name. -/
def enterNamed? (r : Reading) (cs : List Char) : Option (Reading × List Char) :=
  (readName? cs).map fun p => ({ r.enter r.level.mode with names := p.1 :: r.names }, p.2)

/-- Reads what follows an opening parenthesis. -/
def readGroup? (r : Reading) (cs : List Char) : Option (Reading × List Char) :=
  match r.level.mode.skip cs with
  | '?' :: '<' :: cs => r.enterNamed? cs
  | '?' :: 'P' :: '<' :: cs => r.enterNamed? cs
  | '?' :: cs =>
      match readFlags? [] cs with
      | none => none
      | some ([], true, _) => none
      | some (flags, closed, cs) =>
          let mode := r.level.mode.apply flags
          some (if closed then { r with level := r.level.turn mode } else r.enter mode, cs)
  | cs => some (r.enter r.level.mode, cs)

/-- Repeats the last item. A question mark right after the sign of a repetition belongs to it. -/
def repeat? (r : Reading) (cs : List Char) : Option (Reading × List Char) :=
  r.level.again?.map fun level =>
    ({ r with level := level }, if cs.head? = some '?' then cs.tail else cs)

/-- Reads an item, a part of one, or what stands between items. -/
def step? (r : Reading) : List Char → Option (Reading × List Char)
  | '(' :: cs => r.readGroup? cs
  | ')' :: cs => r.leave?.map fun r => (r, cs)
  | '|' :: cs => some ({ r with level := r.level.branch }, cs)
  | '[' :: cs => (readClass? r.level.mode cs).map fun p => (r.put p.1, p.2)
  | '?' :: cs => r.repeat? cs
  | '*' :: cs => r.repeat? cs
  | '+' :: cs => r.repeat? cs
  | '\x7b' :: _ => none
  | cs =>
      match readAtom? r.level.mode cs with
      | none => none
      | some (atom, cs) => if r.level.mode.admits atom then some (r.put 0, cs) else none

theorem length_of_enterNamed? {r r' : Reading} {cs rest : List Char}
    (h : r.enterNamed? cs = some (r', rest)) : rest.length < cs.length := by
  obtain ⟨p, hp, hr⟩ := Option.map_eq_some_iff.1 h
  simp only [Prod.mk.injEq] at hr
  exact hr.2 ▸ length_of_readName? hp

theorem length_of_readGroup? {r r' : Reading} {cs rest : List Char}
    (h : r.readGroup? cs = some (r', rest)) : rest.length ≤ cs.length := by
  have hs := r.level.mode.length_skip_le cs
  unfold readGroup? at h
  split at h
  · next hc =>
      have := length_of_enterNamed? h
      rw [hc] at hs
      simp only [List.length_cons] at hs
      omega
  · next hc =>
      have := length_of_enterNamed? h
      rw [hc] at hs
      simp only [List.length_cons] at hs
      omega
  · next hc =>
      rw [hc] at hs
      split at h
      · simp at h
      · simp at h
      · next hf =>
          have := length_of_readFlags? hf
          have := length_of_some_eq h
          simp only [List.length_cons] at hs
          omega
  · have := length_of_some_eq h
    omega

theorem length_of_repeat? {r r' : Reading} {cs rest : List Char}
    (h : r.repeat? cs = some (r', rest)) : rest.length ≤ cs.length := by
  obtain ⟨_, _, hr⟩ := Option.map_eq_some_iff.1 h
  simp only [Prod.mk.injEq] at hr
  rw [← hr.2]
  split
  · exact (List.tail_sublist cs).length_le
  · exact Nat.le_refl _

/-- A step takes at least one character. -/
theorem length_of_step? {r r' : Reading} {cs rest : List Char}
    (h : r.step? cs = some (r', rest)) : rest.length < cs.length := by
  unfold step? at h
  split at h
  · exact Nat.lt_succ_of_le (length_of_readGroup? h)
  · obtain ⟨_, _, hr⟩ := Option.map_eq_some_iff.1 h
    exact Nat.lt_succ_of_le (Nat.le_of_eq (congrArg (fun p => p.2.length) hr).symm)
  · exact length_of_some_eq h
  · obtain ⟨p, hp, hr⟩ := Option.map_eq_some_iff.1 h
    simp only [Prod.mk.injEq] at hr
    exact Nat.lt_succ_of_lt (hr.2 ▸ length_of_readClass? hp)
  · exact Nat.lt_succ_of_le (length_of_repeat? h)
  · exact Nat.lt_succ_of_le (length_of_repeat? h)
  · exact Nat.lt_succ_of_le (length_of_repeat? h)
  · simp at h
  · split at h
    · simp at h
    · next ha =>
        have := length_of_readAtom? ha
        split at h
        · have := length_of_some_eq h
          omega
        · simp at h

/-- Reads a text to its end. -/
def finish? (r : Reading) (text : List Char) : Option Reading :=
  match _h : r.level.mode.skip text with
  | [] => some r
  | c :: cs =>
      match _hs : r.step? (c :: cs) with
      | none => none
      | some (next, rest) => next.finish? rest
termination_by text.length
decreasing_by
  have hl := r.level.mode.length_skip_le text
  have := length_of_step? _hs
  rw [_h] at hl
  omega

/-- Whether a whole expression has been read. -/
def isComplete (r : Reading) : Bool :=
  r.outer.isEmpty && r.level.depth ≤ maxDepth && differ r.names

end Reading

/-- Whether a text is a regular expression. -/
def isExpression (cs : List Char) : Bool :=
  (Reading.start.finish? cs).any Reading.isComplete

end Reminders.Expression
