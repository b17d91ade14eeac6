import Reminders.Consumer.Version

/-!
# Versions that are well formed

A version has a place in a consumer name exactly if its components are runs of letters and digits,
and what then stands for it is a text with no blank character in it.

What stands for a version tells its components again, the zeros at their end apart: two versions
that are well formed are written alike only if they are the same in that form (`join_normal_inj`).
-/

namespace Reminders.Consumer.Version

open Text (isBlank trim splitOn splitOn_ne_nil splitOn_join join join_cons)

/-- A version whose components, blank characters around it set aside, are runs of ASCII letters and
digits. -/
def WellFormed (version : String) : Prop :=
  ∀ part ∈ splitOn '.' (trim version.toList), part ≠ [] ∧ ∀ c ∈ part, c.isAlphanum = true

theorem all_isComponent_iff {version : String} :
    (splitOn '.' (trim version.toList)).all isComponent = true ↔ WellFormed version := by
  simp [WellFormed, isComponent]

theorem WellFormed.trim_ne_nil {version : String} (h : WellFormed version) :
    trim version.toList ≠ [] := by
  intro empty
  obtain ⟨nonempty, -⟩ := h [] (by rw [empty]; exact .head _)
  exact nonempty rfl

theorem format_of_wellFormed {version : String} (h : WellFormed version) :
    format version = .ok (join '_' (normalForm (splitOn '.' (trim version.toList)))) := by
  have parts := all_isComponent_iff.mpr h
  simp only [format, components, List.isEmpty_iff, if_neg h.trim_ne_nil, if_pos parts]
  rfl

theorem format_of_not_wellFormed {version : String} (h : ¬ WellFormed version) :
    format version = .error
      (if trim version.toList = [] then .emptyVersion else .malformedVersion version) := by
  have parts := mt all_isComponent_iff.mp h
  simp only [format, components, List.isEmpty_iff, if_neg parts]
  split <;> rfl

theorem format_eq_ok_iff {version : String} {text : List Char} :
    format version = .ok text ↔
      WellFormed version ∧ text = join '_' (normalForm (splitOn '.' (trim version.toList))) := by
  by_cases h : WellFormed version
  · simp [format_of_wellFormed h, h, eq_comm]
  · simp [format_of_not_wellFormed h, h]

theorem mem_of_mem_normalForm {part : List Char} {parts : List (List Char)}
    (h : part ∈ normalForm parts) : part ∈ parts := by
  cases parts with
  | nil => exact h
  | cons first rest =>
      rw [normalForm, List.mem_cons, List.mem_reverse] at h
      rcases h with rfl | h
      · exact .head _
      · exact .tail _ (List.mem_reverse.mp ((List.dropWhile_sublist _).mem h))

theorem mem_join {separator c : Char} {parts : List (List Char)} (h : c ∈ join separator parts) :
    c = separator ∨ ∃ part ∈ parts, c ∈ part := by
  induction parts with
  | nil => cases h
  | cons part parts ih =>
      by_cases last : parts = []
      · subst last
        exact .inr ⟨part, .head _, h⟩
      · rw [join_cons last, List.mem_append, List.mem_cons] at h
        rcases h with h | rfl | h
        · exact .inr ⟨part, .head _, h⟩
        · exact .inl rfl
        · rcases ih h with rfl | ⟨part', member, h⟩
          · exact .inl rfl
          · exact .inr ⟨part', .tail _ member, h⟩

theorem isBlank_of_isAlphanum {c : Char} (h : c.isAlphanum = true) : isBlank c = false := by
  delta Char.isAlphanum Char.isAlpha Char.isUpper Char.isLower Char.isDigit at h
  simp only [Bool.or_eq_true, Bool.and_eq_true, decide_eq_true_eq, UInt32.le_iff_toNat_le,
    Char.toNat_val, Char.reduceToNat] at h
  simp only [isBlank, Bool.or_eq_false_iff, Bool.and_eq_false_imp, decide_eq_true_eq,
    decide_eq_false_iff_not, Nat.not_le, beq_eq_false_iff_ne, ne_eq]
  omega

theorem not_isBlank_of_mem_join {separator : Char} (hseparator : isBlank separator = false)
    {parts : List (List Char)} (h : ∀ part ∈ parts, ∀ c ∈ part, c.isAlphanum = true) :
    ∀ c ∈ join separator parts, isBlank c = false := by
  intro c member
  rcases mem_join member with rfl | ⟨part, hpart, member⟩
  · exact hseparator
  · exact isBlank_of_isAlphanum (h part hpart c member)

/-- What stands for a version has no blank character in it. -/
theorem not_isBlank_of_mem_format {version : String} {text : List Char}
    (h : format version = .ok text) : ∀ c ∈ text, isBlank c = false := by
  obtain ⟨wellFormed, rfl⟩ := format_eq_ok_iff.mp h
  exact not_isBlank_of_mem_join (by decide) fun part member =>
    (wellFormed part (mem_of_mem_normalForm member)).2

/-- A version does not vanish from a name. -/
theorem ne_nil_of_format {version : String} {text : List Char} (h : format version = .ok text) :
    text ≠ [] := by
  obtain ⟨wellFormed, rfl⟩ := format_eq_ok_iff.mp h
  cases parts : splitOn '.' (trim version.toList) with
  | nil => exact absurd parts (splitOn_ne_nil _ _)
  | cons first rest =>
      obtain ⟨nonempty, -⟩ := wellFormed first (by rw [parts]; exact .head _)
      rw [normalForm]
      by_cases last : (rest.reverse.dropWhile isZero).reverse = []
      · rw [last]
        exact nonempty
      · rw [join_cons last]
        exact List.append_ne_nil_of_left_ne_nil nonempty _

/-- A list of components without the longest run of zeros at its end, of which the first component
stays in any case. -/
structure Normal (parts kept : List (List Char)) : Prop where
  dropped : ∃ zeros, parts = kept ++ zeros ∧ ∀ zero ∈ zeros, ∀ c ∈ zero, c = '0'
  nonempty : kept ≠ []
  last : ∀ front part, kept = front ++ [part] → front ≠ [] → ∃ c ∈ part, c ≠ '0'

theorem isZero_iff {part : List Char} : isZero part = true ↔ ∀ c ∈ part, c = '0' := by
  simp [isZero]

theorem isZero_eq_false_iff {part : List Char} : isZero part = false ↔ ∃ c ∈ part, c ≠ '0' := by
  simp [isZero]

theorem normal_normalForm {parts : List (List Char)} (h : parts ≠ []) :
    Normal parts (normalForm parts) := by
  cases parts with
  | nil => exact absurd rfl h
  | cons first rest =>
      refine ⟨⟨(rest.reverse.takeWhile isZero).reverse, ?_, ?_⟩, by simp [normalForm], ?_⟩
      · rw [normalForm, List.cons_append, ← List.reverse_append, List.takeWhile_append_dropWhile,
          List.reverse_reverse]
      · intro zero member
        have isZero := List.all_eq_true.mp List.all_takeWhile zero (List.mem_reverse.mp member)
        exact isZero_iff.mp isZero
      · rintro (_ | ⟨first', front⟩) part split nonempty
        · exact absurd rfl nonempty
        · rw [normalForm, List.cons_append] at split
          have reversed := congrArg List.reverse (List.cons.inj split).2
          rw [List.reverse_reverse, List.reverse_append, List.reverse_singleton,
            List.singleton_append] at reversed
          have head := List.head?_dropWhile_not isZero rest.reverse
          rw [reversed] at head
          exact isZero_eq_false_iff.mp head

/-- A normal list does not go on with zeros after the beginning of it that is not empty. -/
theorem Normal.eq_nil_of_append {parts kept more : List (List Char)}
    (h : Normal parts (kept ++ more)) (nonempty : kept ≠ [])
    (zeros : ∀ zero ∈ more, ∀ c ∈ zero, c = '0') : more = [] := by
  rcases List.eq_nil_or_concat more with empty | ⟨front, part, rfl⟩
  · exact empty
  · rw [List.concat_eq_append] at h zeros
    obtain ⟨c, member, other⟩ :=
      h.last (kept ++ front) part (by rw [List.append_assoc]) (by simp [nonempty])
    exact absurd (zeros part (by simp) c member) other

theorem Normal.unique {parts kept kept' : List (List Char)} (h : Normal parts kept)
    (h' : Normal parts kept') : kept = kept' := by
  obtain ⟨zeros, split, allZero⟩ := h.dropped
  obtain ⟨zeros', split', allZero'⟩ := h'.dropped
  rcases List.append_eq_append_iff.mp (split.symm.trans split') with
    ⟨more, rfl, rfl⟩ | ⟨more, rfl, rfl⟩
  · have none := h'.eq_nil_of_append h.nonempty fun z hz => allZero z (List.mem_append_left _ hz)
    rw [none, List.append_nil]
  · have none := h.eq_nil_of_append h'.nonempty fun z hz => allZero' z (List.mem_append_left _ hz)
    rw [none, List.append_nil]

/-- Normal forms are the normal lists. -/
theorem normalForm_eq_iff {parts kept : List (List Char)} (h : parts ≠ []) :
    normalForm parts = kept ↔ Normal parts kept := by
  constructor
  · rintro rfl
    exact normal_normalForm h
  · exact (normal_normalForm h).unique

theorem exists_normal (version : String) :
    ∃ kept, Normal (splitOn '.' (trim version.toList)) kept :=
  ⟨_, normal_normalForm (splitOn_ne_nil _ _)⟩

theorem format_of_normal {version : String} {kept : List (List Char)} (h : WellFormed version)
    (normal : Normal (splitOn '.' (trim version.toList)) kept) :
    format version = .ok (join '_' kept) := by
  rw [format_of_wellFormed h, (normalForm_eq_iff (splitOn_ne_nil _ _)).mpr normal]

/-- The components that stand in a name for a version: those of it without the zeros at its end
(`normalForm_eq_iff`). -/
def normal (version : String) : List (List Char) :=
  normalForm (splitOn '.' (trim version.toList))

theorem normal_ne_nil (version : String) : normal version ≠ [] :=
  (normal_normalForm (splitOn_ne_nil _ _)).nonempty

/-- Two versions that agree in their components, the zeros at the end of each apart. -/
def Alike (version version' : String) : Prop :=
  ∃ kept, Normal (splitOn '.' (trim version.toList)) kept ∧
    Normal (splitOn '.' (trim version'.toList)) kept

theorem alike_iff {version version' : String} :
    Alike version version' ↔ normal version = normal version' := by
  simp only [Alike, ← normalForm_eq_iff (splitOn_ne_nil _ _)]
  exact ⟨fun ⟨_, same, same'⟩ => same.trans same'.symm, fun same => ⟨_, same, rfl⟩⟩

instance (version version' : String) : Decidable (Alike version version') :=
  decidable_of_iff (normal version = normal version') alike_iff.symm

theorem WellFormed.underscore_not_mem {version : String} (h : WellFormed version) :
    ∀ part ∈ normal version, '_' ∉ part := by
  intro part member underscore
  have alphanumeric := (h part (mem_of_mem_normalForm member)).2 '_' underscore
  exact absurd alphanumeric (by decide)

theorem join_normal_inj {version version' : String} (h : WellFormed version)
    (h' : WellFormed version') :
    join '_' (normal version) = join '_' (normal version') ↔ normal version = normal version' := by
  constructor
  · intro same
    rw [← splitOn_join (normal_ne_nil version) h.underscore_not_mem, same,
      splitOn_join (normal_ne_nil version') h'.underscore_not_mem]
  · exact congrArg _

end Reminders.Consumer.Version
