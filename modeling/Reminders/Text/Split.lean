/-!
# Splitting text

Splitting at a separator keeps empty parts, so there is always one part more than there are
separators. Joining the parts with the separator gives the text back, and splitting what was joined
gives the parts back if none of them holds the separator.
-/

namespace Reminders.Text

/-- The parts of a text between the occurrences of a separator. -/
def splitOn (separator : Char) : List Char → List (List Char)
  | [] => [[]]
  | c :: cs =>
      if c = separator then [] :: splitOn separator cs
      else
        match splitOn separator cs with
        | [] => [[c]]
        | part :: parts => (c :: part) :: parts

/-- The parts of a text, one after the other, with a separator between neighbours. -/
def join (separator : Char) : List (List Char) → List Char
  | [] => []
  | [part] => part
  | part :: parts => part ++ separator :: join separator parts

theorem splitOn_ne_nil (separator : Char) (cs : List Char) : splitOn separator cs ≠ [] := by
  cases cs with
  | nil => simp [splitOn]
  | cons c cs =>
      simp only [splitOn]
      split
      · simp
      · split <;> simp

theorem join_cons {separator : Char} {part : List Char} {parts : List (List Char)}
    (h : parts ≠ []) :
    join separator (part :: parts) = part ++ separator :: join separator parts := by
  cases parts with
  | nil => exact absurd rfl h
  | cons _ _ => rfl

theorem join_cons_eq_flatMap (separator : Char) (part : List Char) (parts : List (List Char)) :
    join separator (part :: parts) = part ++ parts.flatMap (separator :: ·) := by
  induction parts generalizing part with
  | nil => simp [join]
  | cons next parts ih =>
      rw [join_cons (List.cons_ne_nil next parts), ih, List.flatMap_cons, List.cons_append]

/-- Parts joined after others follow each separator in turn. -/
theorem join_append {separator : Char} {parts : List (List Char)} (h : parts ≠ [])
    (more : List (List Char)) :
    join separator (parts ++ more) = join separator parts ++ more.flatMap (separator :: ·) := by
  obtain ⟨part, rest, rfl⟩ := List.exists_cons_of_ne_nil h
  rw [List.cons_append, join_cons_eq_flatMap, join_cons_eq_flatMap, List.flatMap_append,
    List.append_assoc]

/-- Nothing but the separators is lost in a split. -/
theorem join_splitOn (separator : Char) (cs : List Char) :
    join separator (splitOn separator cs) = cs := by
  induction cs with
  | nil => rfl
  | cons c cs ih =>
      simp only [splitOn]
      split
      · next h =>
          rw [join_cons (splitOn_ne_nil separator cs), ih, h]
          rfl
      · split
        · next h => exact absurd h (splitOn_ne_nil separator cs)
        · next part parts h =>
            rw [h] at ih
            cases parts with
            | nil => simpa [join] using ih
            | cons _ _ =>
                rw [join_cons (by simp)] at ih ⊢
                rw [← ih]
                rfl

theorem splitOn_append {separator : Char} {part rest : List Char} (h : separator ∉ part) :
    splitOn separator (part ++ separator :: rest) = part :: splitOn separator rest := by
  induction part with
  | nil => simp [splitOn]
  | cons c part ih =>
      rw [List.mem_cons, not_or] at h
      rw [List.cons_append, splitOn, if_neg (Ne.symm h.1), ih h.2]

theorem splitOn_of_not_mem {separator : Char} {part : List Char} (h : separator ∉ part) :
    splitOn separator part = [part] := by
  induction part with
  | nil => rfl
  | cons c part ih =>
      rw [List.mem_cons, not_or] at h
      rw [splitOn, if_neg (Ne.symm h.1), ih h.2]

/-- Parts in which the separator does not occur are found again in the text that joins them. -/
theorem splitOn_join {separator : Char} {parts : List (List Char)} (nonempty : parts ≠ [])
    (free : ∀ part ∈ parts, separator ∉ part) :
    splitOn separator (join separator parts) = parts := by
  induction parts with
  | nil => exact absurd rfl nonempty
  | cons part parts ih =>
      obtain ⟨first, others⟩ := List.forall_mem_cons.mp free
      by_cases last : parts = []
      · subst last
        exact splitOn_of_not_mem first
      · rw [join_cons last, splitOn_append first, ih last others]

/-- A text without the given suffix, if it ends in it. -/
def dropSuffix? (suffix cs : List Char) : Option (List Char) :=
  if suffix.isSuffixOf cs then some (cs.take (cs.length - suffix.length)) else none

theorem dropSuffix?_eq_some_iff {suffix cs base : List Char} :
    dropSuffix? suffix cs = some base ↔ base ++ suffix = cs := by
  unfold dropSuffix?
  constructor
  · intro h
    split at h
    · next hs =>
        obtain ⟨front, rfl⟩ := List.isSuffixOf_iff_suffix.1 hs
        simpa using h.symm
    · simp at h
  · rintro rfl
    simp

end Reminders.Text
