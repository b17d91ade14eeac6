import Reminders.Consumer.Fault
import Reminders.Text.Slice

/-!
# Consumer name patterns

A pattern is plain text mixed with three placeholders: the declaring type's base name, the action
and the API version. `Piece.scan` reads a text into pieces, and `Segment.collect` joins neighbouring
plain characters into literals, so that no literal is empty and no two literals are neighbours.
`Segment.render` writes segments back; it is a left inverse of reading.
-/

namespace Reminders.Consumer

/-- What a placeholder stands for. -/
inductive Placeholder where
  | controller
  | action
  | version
deriving DecidableEq, Repr

namespace Placeholder

def text : Placeholder → List Char
  | controller => ['['] ++ "controller".toList ++ [']']
  | action => ['['] ++ "action".toList ++ [']']
  | version => ['\x7b'] ++ "version:apiVersion".toList ++ ['\x7d']

def ofText? (cs : List Char) : Option Placeholder :=
  [controller, action, version].find? (·.text = cs)

@[simp] theorem ofText?_text (p : Placeholder) : ofText? p.text = some p := by
  cases p <;> decide

theorem text_of_ofText? {cs : List Char} {p : Placeholder} (h : ofText? cs = some p) :
    p.text = cs := by
  simpa using List.find?_some h

end Placeholder

/-- The bracket that closes what an opening bracket begins. -/
def closing? (c : Char) : Option Char :=
  if c = '[' then some ']' else if c = '\x7b' then some '\x7d' else none

/-- Whether a character closes a placeholder. -/
def isClosing (c : Char) : Bool := c = ']' || c = '\x7d'

/-- Whether a character is one of the four brackets that plain text must not hold. -/
def isBracket (c : Char) : Bool := (closing? c).isSome || isClosing c

/-- Splits a text after the first occurrence of a character. -/
def splitAfter? (close : Char) : List Char → Option (List Char × List Char)
  | [] => none
  | c :: cs =>
      if c = close then some ([c], cs)
      else (splitAfter? close cs).map fun r => (c :: r.1, r.2)

theorem append_of_splitAfter? {close : Char} {cs front rest : List Char}
    (h : splitAfter? close cs = some (front, rest)) : front ++ rest = cs := by
  induction cs generalizing front with
  | nil => simp [splitAfter?] at h
  | cons c cs ih =>
      simp only [splitAfter?] at h
      split at h
      · simp only [Option.some.injEq, Prod.mk.injEq] at h
        obtain ⟨rfl, rfl⟩ := h
        rfl
      · obtain ⟨r, hr, h⟩ := Option.map_eq_some_iff.1 h
        simp only [Prod.mk.injEq] at h
        obtain ⟨rfl, rfl⟩ := h
        simp [ih hr]

theorem length_of_splitAfter? {close : Char} {cs front rest : List Char}
    (h : splitAfter? close cs = some (front, rest)) : rest.length ≤ cs.length := by
  rw [← append_of_splitAfter? h]
  simp

/-- A character that stands for itself, or a placeholder. -/
inductive Piece where
  | plain (c : Char)
  | placeholder (p : Placeholder)
deriving DecidableEq, Repr

namespace Piece

def text : Piece → List Char
  | plain c => [c]
  | placeholder p => p.text

/-- Reads pieces from a text that begins at a byte offset of the pattern. -/
def scan (offset : Nat) (cs : List Char) : Except Defect (List Piece) :=
  match cs with
  | [] => .ok []
  | c :: rest =>
      match closing? c with
      | some close =>
          match _h : splitAfter? close rest with
          | none => .error (.unterminated offset)
          | some (token, rest') =>
              match Placeholder.ofText? (c :: token) with
              | none => .error (.unrecognized (c :: token))
              | some p => do
                  let pieces ← scan (offset + Text.byteLength (c :: token)) rest'
                  return .placeholder p :: pieces
      | none =>
          if isClosing c then .error (.unmatched c offset)
          else do
            let pieces ← scan (offset + c.utf8Size) rest
            return .plain c :: pieces
termination_by cs.length
decreasing_by
  · have := length_of_splitAfter? _h
    simp only [List.length_cons]
    omega
  · simp

end Piece

/-- A stretch of plain text, or a placeholder. -/
inductive Segment where
  | literal (text : List Char)
  | placeholder (p : Placeholder)
deriving DecidableEq, Repr

namespace Segment

def text : Segment → List Char
  | literal cs => cs
  | placeholder p => p.text

def render (segments : List Segment) : List Char := segments.flatMap text

/-- Joins neighbouring plain characters into literals. -/
def collect : List Piece → List Segment
  | [] => []
  | .placeholder p :: pieces => .placeholder p :: collect pieces
  | .plain c :: pieces =>
      match collect pieces with
      | .literal cs :: segments => .literal (c :: cs) :: segments
      | segments => .literal [c] :: segments

@[simp] theorem render_nil : render [] = [] := rfl

@[simp] theorem render_cons (s : Segment) (segments : List Segment) :
    render (s :: segments) = s.text ++ render segments := rfl

/-- Collecting loses no text. -/
theorem render_collect (pieces : List Piece) :
    render (collect pieces) = pieces.flatMap Piece.text := by
  induction pieces with
  | nil => rfl
  | cons piece pieces ih =>
      cases piece with
      | placeholder p => simp [collect, ih, text, Piece.text]
      | plain c =>
          simp only [collect, List.flatMap_cons, ← ih]
          split
          · next h => simp [h, text, Piece.text]
          · simp [text, Piece.text]

end Segment

structure Pattern where
  /-- The pattern as it was written. -/
  text : String
  segments : List Segment
deriving DecidableEq, Repr

namespace Pattern

/-- Reads a pattern, which must not be empty. -/
def parse (text : String) : Except Fault Pattern :=
  if text = "" then .error (.pattern text .empty)
  else
    match Piece.scan 0 text.toList with
    | .error defect => .error (.pattern text defect)
    | .ok pieces => .ok ⟨text, Segment.collect pieces⟩

def references (pattern : Pattern) (p : Placeholder) : Bool :=
  pattern.segments.contains (.placeholder p)

def requiresAction (pattern : Pattern) : Bool := pattern.references .action

def requiresVersion (pattern : Pattern) : Bool := pattern.references .version

@[simp] theorem text_of_parse {text : String} {pattern : Pattern}
    (h : parse text = .ok pattern) : pattern.text = text := by
  unfold parse at h
  split at h
  · simp at h
  · split at h
    · simp at h
    · simp only [Except.ok.injEq] at h
      rw [← h]

end Pattern

end Reminders.Consumer
