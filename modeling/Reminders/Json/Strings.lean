import Reminders.Json.Source
import Reminders.Text.Digit

/-!
# Strings in JSON text

`readString` decodes a string and `skipString` passes over one; both begin behind the opening quote.
A decoded string may hold no control character below the space, no byte that is part of no
character, and no escape of half a surrogate pair. A skipped string is held only to the first of
these, and its escapes need only be written correctly.
-/

namespace Reminders.Json

open Text (hexNumber?)

/-- Reads four hexadecimal digits. Fewer than four bytes left over are an early end, whatever they
spell. -/
def readUnit (s : Source) : Except Fault (Nat × Source) :=
  match s with
  | some a :: some b :: some c :: some d :: rest =>
      match hexNumber? [a, b, c, d] 0 with
      | some n => .ok (n, rest)
      | none => .error .malformed
  | s =>
      if ((s.take 4).map Source.width).foldl (· + ·) 0 < 4 then .error .truncated
      else .error .malformed

/-- The character that a one-letter escape stands for. -/
def shortEscape? (c : Char) : Option Char :=
  match c with
  | '"' => some '"'
  | '\\' => some '\\'
  | '/' => some '/'
  | 'b' => some '\x08'
  | 'f' => some '\x0c'
  | 'n' => some '\n'
  | 'r' => some '\r'
  | 't' => some '\t'
  | _ => none

/-- Reads the second half of a surrogate pair whose first half is known. -/
def readLowHalf (high : Nat) (s : Source) : Except Fault (Char × Source) :=
  match s with
  | [] => .error .truncated
  | [some '\\'] => .error .truncated
  | some '\\' :: some 'u' :: rest =>
      match readUnit rest with
      | .error f => .error f
      | .ok (low, rest) =>
          if 0xDC00 ≤ low ∧ low ≤ 0xDFFF then
            .ok (Char.ofNat (0x10000 + 0x400 * (high - 0xD800) + (low - 0xDC00)), rest)
          else .error .malformed
  | _ => .error .malformed

/-- Reads an escape behind its backslash. -/
def readEscape (s : Source) : Except Fault (Char × Source) :=
  match s with
  | [] => .error .truncated
  | some 'u' :: rest =>
      match readUnit rest with
      | .error f => .error f
      | .ok (n, rest) =>
          if 0xDC00 ≤ n ∧ n ≤ 0xDFFF then .error .malformed
          else if 0xD800 ≤ n ∧ n ≤ 0xDBFF then readLowHalf n rest
          else .ok (Char.ofNat n, rest)
  | some c :: rest =>
      match shortEscape? c with
      | some d => .ok (d, rest)
      | none => .error .malformed
  | none :: _ => .error .malformed

theorem length_of_readUnit {s rest : Source} {n : Nat} (h : readUnit s = .ok (n, rest)) :
    rest.length < s.length := by
  unfold readUnit at h
  split at h
  · split at h
    · simp only [Except.ok.injEq, Prod.mk.injEq] at h
      obtain ⟨-, rfl⟩ := h
      simp only [List.length_cons]
      omega
    · simp at h
  · split at h <;> simp at h

theorem length_of_readLowHalf {high : Nat} {s rest : Source} {c : Char}
    (h : readLowHalf high s = .ok (c, rest)) : rest.length < s.length := by
  unfold readLowHalf at h
  split at h
  · simp at h
  · simp at h
  · split at h
    · simp at h
    · next hr =>
        split at h
        · simp only [Except.ok.injEq, Prod.mk.injEq] at h
          obtain ⟨-, rfl⟩ := h
          have := length_of_readUnit hr
          simp only [List.length_cons]
          omega
        · simp at h
  · simp at h

/-- An escape takes up at least one character. -/
theorem length_of_readEscape {s rest : Source} {c : Char} (h : readEscape s = .ok (c, rest)) :
    rest.length < s.length := by
  unfold readEscape at h
  split at h
  · simp at h
  · split at h
    · simp at h
    · next hr =>
        have := length_of_readUnit hr
        split at h
        · simp at h
        · split at h
          · have := length_of_readLowHalf h
            simp only [List.length_cons]
            omega
          · simp only [Except.ok.injEq, Prod.mk.injEq] at h
            obtain ⟨-, rfl⟩ := h
            simp only [List.length_cons]
            omega
  · split at h
    · simp only [Except.ok.injEq, Prod.mk.injEq] at h
      obtain ⟨-, rfl⟩ := h
      simp
    · simp at h
  · simp at h

/-- Reads a string after the characters already read, which are given in reverse. `sound` tells that
every byte so far was part of a character; that is judged at the closing quote. -/
def readString (read : List Char) (sound : Bool) (s : Source) : Except Fault (String × Source) :=
  match s with
  | [] => .error .truncated
  | none :: rest => readString read false rest
  | some '"' :: rest =>
      if sound then .ok (String.ofList read.reverse, rest) else .error .malformed
  | some '\\' :: rest =>
      match _h : readEscape rest with
      | .error f => .error f
      | .ok (c, rest') => readString (c :: read) sound rest'
  | some c :: rest =>
      if c.toNat < 0x20 then .error .malformed else readString (c :: read) sound rest
termination_by s.length
decreasing_by
  · simp
  · have := length_of_readEscape _h
    simp only [List.length_cons]
    omega
  · simp

def skipString (s : Source) : Except Fault Source :=
  match s with
  | [] => .error .truncated
  | none :: rest => skipString rest
  | some '"' :: rest => .ok rest
  | [some '\\'] => .error .truncated
  | some '\\' :: none :: _ => .error .malformed
  | some '\\' :: some 'u' :: rest =>
      match _h : readUnit rest with
      | .error f => .error f
      | .ok (_, rest') => skipString rest'
  | some '\\' :: some c :: rest =>
      if (shortEscape? c).isSome then skipString rest else .error .malformed
  | some c :: rest => if c.toNat < 0x20 then .error .malformed else skipString rest
termination_by s.length
decreasing_by
  · simp
  · have := length_of_readUnit _h
    simp only [List.length_cons]
    omega
  · simp only [List.length_cons]
    omega
  · simp

theorem length_of_readString {read : List Char} {sound : Bool} {s rest : Source} {t : String}
    (h : readString read sound s = .ok (t, rest)) : rest.length < s.length := by
  fun_induction readString read sound s with
  | case1 => simp at h
  | case2 _ _ _ ih => exact Nat.lt_succ_of_lt (ih h)
  | case3 =>
      simp only [Except.ok.injEq, Prod.mk.injEq] at h
      obtain ⟨-, rfl⟩ := h
      simp
  | case4 => simp at h
  | case5 => simp at h
  | case6 _ _ _ _ _ hr ih =>
      have := length_of_readEscape hr
      have := ih h
      simp only [List.length_cons]
      omega
  | case7 => simp at h
  | case8 _ _ _ _ _ _ _ ih => exact Nat.lt_succ_of_lt (ih h)

theorem length_of_skipString {s rest : Source} (h : skipString s = .ok rest) :
    rest.length < s.length := by
  fun_induction skipString s with
  | case1 => simp at h
  | case2 _ ih => exact Nat.lt_succ_of_lt (ih h)
  | case3 =>
      simp only [Except.ok.injEq] at h
      rw [← h]
      simp
  | case4 => simp at h
  | case5 => simp at h
  | case6 => simp at h
  | case7 _ _ _ hr ih =>
      have := length_of_readUnit hr
      have := ih h
      simp only [List.length_cons]
      omega
  | case8 _ _ _ _ ih =>
      have := ih h
      simp only [List.length_cons]
      omega
  | case9 => simp at h
  | case10 => simp at h
  | case11 _ _ _ _ _ _ _ _ ih => exact Nat.lt_succ_of_lt (ih h)

section Characters

variable {read : List Char} {sound : Bool} {rest : Source}

theorem readString_quote (read : List Char) (rest : Source) :
    readString read true (some '"' :: rest) = .ok (String.ofList read.reverse, rest) := by
  rw [readString, if_pos rfl]

theorem readString_escape {s : Source} {c : Char} (h : readEscape s = .ok (c, rest)) :
    readString read sound (some '\\' :: s) = readString (c :: read) sound rest := by
  rw [readString]
  split
  · next fails =>
      cases fails.symm.trans h
  · next reads =>
      cases reads.symm.trans h
      rfl

theorem readString_plain {c : Char} (quote : c ≠ '"') (backslash : c ≠ '\\')
    (visible : ¬c.toNat < 0x20) :
    readString read sound (some c :: rest) = readString (c :: read) sound rest := by
  rw [readString]
  · rw [if_neg visible]
  · simpa using quote
  · simpa using backslash

end Characters

end Reminders.Json
