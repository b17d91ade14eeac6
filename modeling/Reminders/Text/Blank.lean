/-!
# Blank characters

`isBlank` is Unicode's `White_Space` property, and `trim` removes blank characters from both ends of
a text. The main statements are that a trimmed text begins and ends with no blank character, and
that a text of that kind is its own trimming. `IsTrimming` tells what trimming leaves without saying
how it goes about it.
-/

namespace Reminders.Text

/-- Membership in Unicode's `White_Space` property. -/
def isBlank (c : Char) : Bool :=
  let n := c.toNat
  (0x09 ≤ n && n ≤ 0x0D) || n == 0x20 || n == 0x85 || n == 0xA0 || n == 0x1680 ||
    (0x2000 ≤ n && n ≤ 0x200A) || n == 0x2028 || n == 0x2029 || n == 0x202F || n == 0x205F ||
    n == 0x3000

def trimStart (cs : List Char) : List Char := cs.dropWhile isBlank

def trimEnd (cs : List Char) : List Char := (trimStart cs.reverse).reverse

/-- A text without the blank characters at its two ends. -/
def trim (cs : List Char) : List Char := trimEnd (trimStart cs)

def trimmed (s : String) : String := String.ofList (trim s.toList)

@[simp] theorem toList_trimmed (s : String) : (trimmed s).toList = trim s.toList := by
  simp [trimmed]

@[simp] theorem trimStart_nil : trimStart [] = [] := rfl

theorem trimStart_cons_blank {c : Char} (h : isBlank c = true) (cs : List Char) :
    trimStart (c :: cs) = trimStart cs := by
  simp [trimStart, h]

theorem trimStart_cons_dark {c : Char} (h : isBlank c = false) (cs : List Char) :
    trimStart (c :: cs) = c :: cs := by
  simp [trimStart, h]

/-- What is left after trimming the front starts with no blank character. -/
theorem isBlank_head_trimStart {cs rest : List Char} {c : Char}
    (h : trimStart cs = c :: rest) : isBlank c = false := by
  induction cs with
  | nil => simp at h
  | cons d ds ih =>
      cases hd : isBlank d with
      | true => exact ih (by rw [← trimStart_cons_blank hd ds]; exact h)
      | false =>
          rw [trimStart_cons_dark hd] at h
          obtain ⟨rfl, -⟩ := List.cons.inj h
          exact hd

@[simp] theorem trimStart_trimStart (cs : List Char) :
    trimStart (trimStart cs) = trimStart cs := by
  cases h : trimStart cs with
  | nil => rfl
  | cons c rest => exact trimStart_cons_dark (isBlank_head_trimStart h) rest

/-- Trimming the end takes nothing off the front. -/
theorem trimEnd_prefix (cs : List Char) : trimEnd cs <+: cs := by
  rw [← List.reverse_suffix, trimEnd, List.reverse_reverse]
  exact List.dropWhile_suffix isBlank

/-- A trimmed text begins with no blank character. -/
theorem isBlank_of_mem_head?_trim {cs : List Char} {c : Char} (h : c ∈ (trim cs).head?) :
    isBlank c = false := by
  obtain ⟨rest, hrest⟩ := List.head?_eq_some_iff.mp h
  obtain ⟨cut, hcut⟩ := trimEnd_prefix (trimStart cs)
  rw [trim] at hrest
  rw [hrest, List.cons_append] at hcut
  exact isBlank_head_trimStart hcut.symm

/-- A trimmed text ends with no blank character. -/
theorem isBlank_of_mem_getLast?_trim {cs : List Char} {c : Char} (h : c ∈ (trim cs).getLast?) :
    isBlank c = false := by
  rw [trim, trimEnd, List.getLast?_reverse] at h
  obtain ⟨rest, hrest⟩ := List.head?_eq_some_iff.mp h
  exact isBlank_head_trimStart hrest

@[simp] theorem trimEnd_trimEnd (cs : List Char) : trimEnd (trimEnd cs) = trimEnd cs := by
  simp [trimEnd]

theorem trimStart_append_of_blank {front : List Char} (h : ∀ c ∈ front, isBlank c = true)
    (cs : List Char) : trimStart (front ++ cs) = trimStart cs :=
  List.dropWhile_append_of_pos h

theorem trimEnd_append_of_blank {back : List Char} (h : ∀ c ∈ back, isBlank c = true)
    (cs : List Char) : trimEnd (cs ++ back) = trimEnd cs := by
  rw [trimEnd, List.reverse_append, trimStart_append_of_blank (by simpa using h), trimEnd]

/-- Blank characters around a text do not count. -/
theorem trim_append_of_blank {front back : List Char} (hfront : ∀ c ∈ front, isBlank c = true)
    (hback : ∀ c ∈ back, isBlank c = true) (cs : List Char) :
    trim (front ++ cs ++ back) = trim cs := by
  rw [List.append_assoc, trim, trimStart_append_of_blank hfront, trimStart, List.dropWhile_append]
  split
  · next nothing =>
      rw [List.isEmpty_iff] at nothing
      have none : trimStart back = [] := by
        simpa using trimStart_append_of_blank hback []
      rw [← trimStart, none, trim, trimStart, nothing]
  · exact trimEnd_append_of_blank hback _

/-- A text that begins and ends with no blank character is its own trimming. -/
theorem trim_of_dark_ends {cs : List Char} (hhead : ∀ c ∈ cs.head?, isBlank c = false)
    (hlast : ∀ c ∈ cs.getLast?, isBlank c = false) : trim cs = cs := by
  have start {xs : List Char} (h : ∀ c ∈ xs.head?, isBlank c = false) : trimStart xs = xs := by
    cases xs with
    | nil => rfl
    | cons c xs => exact trimStart_cons_dark (h c rfl) xs
  rw [trim, start hhead, trimEnd, start (by simpa using hlast), List.reverse_reverse]

/-- What is left of a text if blank characters are taken off both ends, as many as there are. -/
structure IsTrimming (cs core : List Char) : Prop where
  framed : ∃ front back, (∀ c ∈ front, isBlank c = true) ∧ (∀ c ∈ back, isBlank c = true) ∧
    cs = front ++ core ++ back
  begins : ∀ c ∈ core.head?, isBlank c = false
  ends : ∀ c ∈ core.getLast?, isBlank c = false

theorem exists_append_trimStart (cs : List Char) :
    ∃ front, (∀ c ∈ front, isBlank c = true) ∧ cs = front ++ trimStart cs :=
  ⟨cs.takeWhile isBlank, List.all_eq_true.mp List.all_takeWhile,
    List.takeWhile_append_dropWhile.symm⟩

theorem isTrimming_trim (cs : List Char) : IsTrimming cs (trim cs) := by
  obtain ⟨front, blank, start⟩ := exists_append_trimStart cs
  obtain ⟨back, blank', stop⟩ := exists_append_trimStart (trimStart cs).reverse
  refine ⟨⟨front, back.reverse, blank, by simpa using blank', ?_⟩,
    fun _ => isBlank_of_mem_head?_trim, fun _ => isBlank_of_mem_getLast?_trim⟩
  have rest : trimStart cs = trim cs ++ back.reverse := by
    simpa [trim, trimEnd] using congrArg List.reverse stop
  rw [List.append_assoc, ← rest]
  exact start

theorem trim_eq_iff {cs core : List Char} : trim cs = core ↔ IsTrimming cs core := by
  constructor
  · rintro rfl
    exact isTrimming_trim cs
  · rintro ⟨⟨front, back, blank, blank', rfl⟩, begins, ends⟩
    rw [trim_append_of_blank blank blank', trim_of_dark_ends begins ends]

/-- Nothing is left of a text that is blank throughout, and only of such a text. -/
theorem trim_eq_nil_iff {cs : List Char} : trim cs = [] ↔ ∀ c ∈ cs, isBlank c = true := by
  rw [trim_eq_iff]
  constructor
  · rintro ⟨⟨front, back, blank, blank', rfl⟩, -, -⟩ c member
    rw [List.append_nil, List.mem_append] at member
    exact member.elim (blank c) (blank' c)
  · intro blank
    exact ⟨⟨cs, [], blank, by simp, by simp⟩, by simp, by simp⟩

@[simp] theorem trimmed_trimmed (s : String) : trimmed (trimmed s) = trimmed s := by
  have left := isTrimming_trim s.toList
  rw [trimmed, toList_trimmed, trim_of_dark_ends left.begins left.ends, trimmed]

/-- `trim_append_of_blank` on strings. -/
theorem trimmed_append_of_blank {front back : String}
    (hfront : ∀ c ∈ front.toList, isBlank c = true) (hback : ∀ c ∈ back.toList, isBlank c = true)
    (s : String) : trimmed (front ++ s ++ back) = trimmed s := by
  rw [trimmed, String.toList_append, String.toList_append, trim_append_of_blank hfront hback,
    trimmed]

end Reminders.Text
