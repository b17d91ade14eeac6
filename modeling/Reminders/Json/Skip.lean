import Reminders.Json.Number
import Reminders.Json.Strings

/-!
# Skipping JSON values

`skipValue` passes over one value of any kind, however deeply nested: the brackets that are open are
kept in a list, so nesting has no limit. `mismatch` is the fault of a value that stands where one of
another kind is wanted.
-/

namespace Reminders.Json

open Source (skipBlank)

def skipWord : List Char → Source → Except Fault Source
  | [], s => .ok s
  | _ :: _, [] => .error .truncated
  | c :: word, item :: s => if item = some c then skipWord word s else .error .malformed

/-- The rest of the word that a letter begins. -/
def wordFrom? (c : Char) : Option (List Char) :=
  match c with
  | 'n' => some ['u', 'l', 'l']
  | 't' => some ['r', 'u', 'e']
  | 'f' => some ['a', 'l', 's', 'e']
  | _ => none

/-- Passes over a value that is neither a list nor an object, and that no blank precedes. -/
def skipScalar (s : Source) : Except Fault Source :=
  match s with
  | some '"' :: rest => skipString rest
  | some '-' :: rest => skipNumber rest
  | some c :: rest =>
      match wordFrom? c with
      | some word => skipWord word rest
      | none => skipNumber s
  | _ => .error .malformed

def skipColon (s : Source) : Except Fault Source :=
  match skipBlank s with
  | [] => .error .truncated
  | some ':' :: rest => .ok rest
  | _ => .error .malformed

def skipName (s : Source) : Except Fault Source :=
  match skipBlank s with
  | [] => .error .truncated
  | some '"' :: rest =>
      match skipString rest with
      | .error f => .error f
      | .ok rest' => skipColon rest'
  | _ => .error .malformed

theorem length_of_skipWord {word : List Char} {s rest : Source} (h : skipWord word s = .ok rest) :
    rest.length ≤ s.length := by
  induction word generalizing s with
  | nil =>
      simp only [skipWord, Except.ok.injEq] at h
      exact Nat.le_of_eq (congrArg List.length h).symm
  | cons c word ih =>
      cases s with
      | nil => simp [skipWord] at h
      | cons item s =>
          simp only [skipWord] at h
          split at h
          · exact Nat.le_succ_of_le (ih h)
          · simp at h

theorem length_of_skipScalar {s rest : Source} (h : skipScalar s = .ok rest) :
    rest.length < s.length := by
  unfold skipScalar at h
  split at h
  · exact Nat.lt_succ_of_lt (length_of_skipString h)
  · exact Nat.lt_succ_of_lt (length_of_skipNumber h)
  · split at h
    · exact Nat.lt_succ_of_le (length_of_skipWord h)
    · exact length_of_skipNumber h
  · simp at h

theorem length_of_skipColon {s rest : Source} (h : skipColon s = .ok rest) :
    rest.length < s.length := by
  unfold skipColon at h
  split at h
  · simp at h
  · next hc =>
      simp only [Except.ok.injEq] at h
      exact h ▸ Source.length_lt_of_skipBlank hc
  · simp at h

theorem length_of_skipName {s rest : Source} (h : skipName s = .ok rest) :
    rest.length < s.length := by
  unfold skipName at h
  split at h
  · simp at h
  · next hs =>
      have := Source.length_lt_of_skipBlank hs
      split at h
      · simp at h
      · next hr =>
          have := length_of_skipString hr
          have := length_of_skipColon h
          omega
  · simp at h

inductive Frame where
  | list
  | object
deriving DecidableEq, Repr

/-- The character that closes a bracket. -/
def Frame.close : Frame → Char
  | list => ']'
  | object => '\x7d'

/-- Where skipping stands: before a value, or behind one. -/
inductive Place where
  | before
  | behind
deriving DecidableEq, Repr

/-- Passes over what is left of a value inside the given open brackets, the innermost first. -/
def skip (place : Place) (frames : List Frame) (s : Source) : Except Fault Source :=
  match place, frames with
  | .behind, [] => .ok s
  | .behind, frame :: outer =>
      match _h : skipBlank s with
      | [] => .error .truncated
      | some ',' :: rest =>
          match frame with
          | .list => skip .before frames rest
          | .object =>
              match _hn : skipName rest with
              | .error f => .error f
              | .ok rest' => skip .before frames rest'
      | item :: rest =>
          if item = some frame.close then skip .behind outer rest else .error .malformed
  | .before, frames =>
      match _h : skipBlank s with
      | [] => .error .truncated
      | some '[' :: rest =>
          match _hr : skipBlank rest with
          | [] => .error .truncated
          | some ']' :: rest' => skip .behind frames rest'
          | _ => skip .before (.list :: frames) rest
      | some '\x7b' :: rest =>
          match _hr : skipBlank rest with
          | [] => .error .truncated
          | some '\x7d' :: rest' => skip .behind frames rest'
          | _ =>
              match _hn : skipName rest with
              | .error f => .error f
              | .ok rest' => skip .before (.object :: frames) rest'
      | item :: rest =>
          match _hs : skipScalar (item :: rest) with
          | .error f => .error f
          | .ok rest' => skip .behind frames rest'
termination_by s.length
decreasing_by
  · exact Source.length_lt_of_skipBlank _h
  · have := Source.length_lt_of_skipBlank _h
    have := length_of_skipName _hn
    omega
  · exact Source.length_lt_of_skipBlank _h
  · have := Source.length_lt_of_skipBlank _h
    have := Source.length_lt_of_skipBlank _hr
    omega
  · exact Source.length_lt_of_skipBlank _h
  · have := Source.length_lt_of_skipBlank _h
    have := Source.length_lt_of_skipBlank _hr
    omega
  · have := Source.length_lt_of_skipBlank _h
    have := length_of_skipName _hn
    omega
  · have := Source.length_lt_of_skipBlank _h
    have := length_of_skipScalar _hs
    simp only [List.length_cons] at this
    omega

def skipValue (s : Source) : Except Fault Source := skip .before [] s

theorem length_of_skip {place : Place} {frames : List Frame} {s rest : Source}
    (h : skip place frames s = .ok rest) :
    rest.length ≤ s.length ∧ (place = .before → rest.length < s.length) := by
  fun_induction skip place frames s with
  | case1 => simp_all
  | case3 _ _ _ hs ih | case6 _ _ _ _ _ hs ih | case11 _ _ _ hs _ _ ih =>
      have := Source.length_lt_of_skipBlank hs
      have := (ih h).1
      exact ⟨by omega, fun _ => by omega⟩
  | case5 _ _ _ hs _ hn ih | case15 _ _ _ hs _ hn _ _ ih =>
      have := Source.length_lt_of_skipBlank hs
      have := length_of_skipName hn
      have := (ih h).1
      exact ⟨by omega, fun _ => by omega⟩
  | case10 _ _ _ hs _ hr ih | case13 _ _ _ hs _ hr ih =>
      have := Source.length_lt_of_skipBlank hs
      have := Source.length_lt_of_skipBlank hr
      have := (ih h).1
      exact ⟨by omega, fun _ => by omega⟩
  | case17 _ _ _ _ _ _ hs _ hn ih =>
      have := Source.length_lt_of_skipBlank hs
      have := length_of_skipScalar hn
      have := (ih h).1
      simp only [List.length_cons] at *
      exact ⟨by omega, fun _ => by omega⟩
  | case2 | case4 | case7 | case8 | case9 | case12 | case14 | case16 => simp at h

/-- A value takes up at least one item. -/
theorem length_of_skipValue {s rest : Source} (h : skipValue s = .ok rest) :
    rest.length < s.length :=
  (length_of_skip h).2 rfl

/-- The fault of a value, no blank before it, that is not of the wanted kind. Lists and objects are
not looked into; anything else is read to its end first. -/
def mismatch (s : Source) : Fault :=
  match s with
  | [] => .truncated
  | some '[' :: _ => .mismatched
  | some '\x7b' :: _ => .mismatched
  | some '"' :: rest =>
      match readString [] true rest with
      | .error f => f
      | .ok _ => .mismatched
  | some '-' :: rest => numberFault rest
  | some c :: rest =>
      match wordFrom? c with
      | some word =>
          match skipWord word rest with
          | .error f => f
          | .ok _ => .mismatched
      | none => numberFault s
  | none :: _ => .malformed

end Reminders.Json
