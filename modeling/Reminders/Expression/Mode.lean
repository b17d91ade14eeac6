import Reminders.Text.Blank

/-!
# Modes of expressions

How a regular expression is to be read may change on the way. Letters after `(?` are flags: those
before a hyphen are turned on, and those after it are turned off, up to the end of the group that
they open or stand in. Only three flags bear on what an expression is; the others say what it
matches.
-/

namespace Reminders.Expression

open Text (isBlank)

inductive Flag where
  /-- Letters of either case are the same. -/
  | caseless
  /-- Lines have ends of their own. -/
  | multiline
  /-- Any character may be the end of a line. -/
  | dotAll
  /-- Repetitions match as little as they can. -/
  | lazy
  /-- Characters are those of Unicode, and not bytes. -/
  | unicode
  /-- A carriage return ends a line, too. -/
  | returns
  /-- Blanks and comments are passed over. -/
  | spaced
deriving DecidableEq, Repr

def Flag.ofLetter? : Char → Option Flag
  | 'i' => some .caseless
  | 'm' => some .multiline
  | 's' => some .dotAll
  | 'U' => some .lazy
  | 'u' => some .unicode
  | 'R' => some .returns
  | 'x' => some .spaced
  | _ => none

/-- Reads flags up to a colon or a closing parenthesis, after those that have been read, the last
one first. `none` stands for a hyphen, and neither it nor a flag comes twice. The result tells
whether a parenthesis ends the flags. -/
def readFlags? (flags : List (Option Flag)) :
    List Char → Option (List (Option Flag) × Bool × List Char)
  | [] => none
  | c :: cs =>
      if c = ':' || c = ')' then
        if flags.head? = some none then none else some (flags.reverse, c = ')', cs)
      else
        match if c = '-' then some none else (Flag.ofLetter? c).map some with
        | none => none
        | some flag => if flags.contains flag then none else readFlags? (flag :: flags) cs

theorem length_of_readFlags? {flags flags' : List (Option Flag)} {closed : Bool}
    {cs rest : List Char} (h : readFlags? flags cs = some (flags', closed, rest)) :
    rest.length < cs.length := by
  induction cs generalizing flags with
  | nil => simp [readFlags?] at h
  | cons c cs ih =>
      rw [readFlags?] at h
      split at h
      · split at h
        · simp at h
        · simp only [Option.some.injEq, Prod.mk.injEq] at h
          exact Nat.lt_succ_of_le (Nat.le_of_eq (congrArg List.length h.2.2).symm)
      · split at h
        · simp at h
        · split at h
          · simp at h
          · exact Nat.lt_succ_of_lt (ih h)

structure Mode where
  caseless : Bool
  unicode : Bool
  spaced : Bool
deriving DecidableEq, Repr

namespace Mode

def initial : Mode := ⟨false, true, false⟩

/-- Turns a flag on or off. -/
def set (on : Bool) (m : Mode) : Flag → Mode
  | .caseless => { m with caseless := on }
  | .unicode => { m with unicode := on }
  | .spaced => { m with spaced := on }
  | _ => m

/-- The mode after flags, of which `none` is the hyphen. -/
def apply (m : Mode) (flags : List (Option Flag)) : Mode :=
  let on := flags.takeWhile Option.isSome
  let off := flags.dropWhile Option.isSome
  (off.filterMap id).foldl (set false) ((on.filterMap id).foldl (set true) m)

/-- A text without the blanks and the comments at its front. A comment starts with `#` and goes on
to the end of the line; `inComment` tells whether the text starts in one. -/
def skipSpace (inComment : Bool) : List Char → List Char
  | [] => []
  | c :: cs =>
      if inComment then skipSpace (c != '\n') cs
      else if c = '#' then skipSpace true cs
      else if isBlank c then skipSpace false cs
      else c :: cs

/-- A text without what is passed over at its front. -/
def skip (m : Mode) (cs : List Char) : List Char := if m.spaced then skipSpace false cs else cs

theorem length_skipSpace_le (inComment : Bool) (cs : List Char) :
    (skipSpace inComment cs).length ≤ cs.length := by
  induction cs generalizing inComment with
  | nil => exact Nat.le_refl _
  | cons c cs ih =>
      have h (b : Bool) := Nat.le_succ_of_le (ih b)
      simp only [skipSpace]
      split
      · exact h _
      · split
        · exact h _
        · split
          · exact h _
          · exact Nat.le_refl _

/-- Passing over lengthens no text. -/
theorem length_skip_le (m : Mode) (cs : List Char) : (m.skip cs).length ≤ cs.length := by
  unfold skip
  split
  · exact length_skipSpace_le false cs
  · exact Nat.le_refl _

theorem length_lt_of_skip {m : Mode} {cs rest : List Char} {c : Char}
    (h : m.skip cs = c :: rest) : rest.length < cs.length := by
  have := m.length_skip_le cs
  rw [h, List.length_cons] at this
  omega

end Mode

end Reminders.Expression
