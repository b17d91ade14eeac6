import Reminders.Proofs.Consumer.Version

/-!
# The form of a version in a name

What stands for a version in a consumer name is its components without the zeros at their end,
joined with underscores. Splitting it at the underscores gives these components back
(`splitOn_of_format`), so two versions are written alike exactly if they agree in them.

How a version is written beyond that does not matter: blank characters around it, further components
of zeros at its end, and whether it is the version or what stands for it, dotted again
(`format_append_of_blank`, `format_append_zeros`, `format_dotted`).
-/

namespace Reminders.Consumer.Version

open Text (isBlank trim trim_append_of_blank trim_of_dark_ends splitOn splitOn_ne_nil splitOn_join
  join join_cons join_append join_splitOn)

variable {version : String} {text : List Char} {parts zeros : List (List Char)}

/-- A run of ASCII letters and digits. -/
def IsGroup (part : List Char) : Prop := part ≠ [] ∧ ∀ c ∈ part, c.isAlphanum = true

theorem IsGroup.not_mem {part : List Char} (h : IsGroup part) {c : Char}
    (separates : c.isAlphanum = false) : c ∉ part := by
  intro member
  rw [h.2 c member] at separates
  cases separates

/-- A version is formatted by its components alone. -/
theorem format_of_splitOn (split : splitOn '.' (trim version.toList) = parts)
    (groups : ∀ part ∈ parts, IsGroup part) :
    format version = .ok (join '_' (normalForm parts)) := by
  subst split
  exact format_of_wellFormed groups

/-- The components of a version are found again in what stands for it. -/
theorem splitOn_of_format (h : format version = .ok text) :
    splitOn '_' text = normal version := by
  obtain ⟨wellFormed, rfl⟩ := format_eq_ok_iff.mp h
  exact splitOn_join (normal_ne_nil version) wellFormed.underscore_not_mem

theorem isGroup_of_mem_splitOn (h : format version = .ok text) {part : List Char}
    (member : part ∈ splitOn '_' text) : IsGroup part := by
  rw [splitOn_of_format h] at member
  exact (format_eq_ok_iff.mp h).1 part (mem_of_mem_normalForm member)

/-- The last component that stands for a version is not zero, unless it is the only one. -/
theorem exists_ne_zero_of_splitOn (h : format version = .ok text) {front : List (List Char)}
    {last : List Char} (split : splitOn '_' text = front ++ [last]) (more : front ≠ []) :
    ∃ c ∈ last, c ≠ '0' := by
  rw [splitOn_of_format h] at split
  exact (normal_normalForm (splitOn_ne_nil _ _)).last front last split more

/-- Versions are written alike if they agree in their components without zeros at the end. -/
theorem format_eq_iff {version' : String} {text' : List Char} (h : format version = .ok text)
    (h' : format version' = .ok text') :
    text = text' ↔ ∃ kept, Normal (splitOn '.' (trim version.toList)) kept ∧
      Normal (splitOn '.' (trim version'.toList)) kept := by
  obtain ⟨wellFormed, rfl⟩ := format_eq_ok_iff.mp h
  obtain ⟨wellFormed', rfl⟩ := format_eq_ok_iff.mp h'
  exact (join_normal_inj wellFormed wellFormed').trans alike_iff.symm

theorem format_append_of_blank {front back : List Char} (hfront : ∀ c ∈ front, isBlank c = true)
    (hback : ∀ c ∈ back, isBlank c = true) (h : format version = .ok text) :
    format (String.ofList (front ++ version.toList ++ back)) = .ok text := by
  obtain ⟨wellFormed, rfl⟩ := format_eq_ok_iff.mp h
  refine format_of_splitOn ?_ wellFormed
  rw [String.toList_ofList, trim_append_of_blank hfront hback]

/-- Zeros at the end do not count. -/
theorem normalForm_append_zeros (nonempty : parts ≠ [])
    (h : ∀ zero ∈ zeros, ∀ c ∈ zero, c = '0') : normalForm (parts ++ zeros) = normalForm parts := by
  obtain ⟨⟨dropped, split, allZero⟩, given, last⟩ := normal_normalForm nonempty
  refine (normalForm_eq_iff (by simp [nonempty])).mpr ⟨⟨dropped ++ zeros, ?_, ?_⟩, given, last⟩
  · rw [← List.append_assoc, ← split]
  · exact List.forall_mem_append.mpr ⟨allZero, h⟩

theorem map_join {separator separator' : Char} (free : ∀ part ∈ parts, separator ∉ part) :
    (join separator parts).map (fun c => if c = separator then separator' else c) =
      join separator' parts := by
  have same {part : List Char} (h : separator ∉ part) :
      part.map (fun c => if c = separator then separator' else c) = part := by
    refine (List.map_congr_left ?_).trans (List.map_id part)
    intro c member
    rw [if_neg (ne_of_mem_of_not_mem member h), id]
  induction parts with
  | nil => rfl
  | cons part parts ih =>
      obtain ⟨first, others⟩ := List.forall_mem_cons.mp free
      by_cases last : parts = []
      · subst last
        exact same first
      · rw [join_cons last, join_cons last, List.map_append, List.map_cons, same first, ih others,
          if_pos rfl]

/-- A version is formatted by its components, when they are joined with dots. -/
theorem format_join (nonempty : parts ≠ []) (groups : ∀ part ∈ parts, IsGroup part) :
    format (String.ofList (join '.' parts)) = .ok (join '_' (normalForm parts)) := by
  have undotted : ∀ part ∈ parts, '.' ∉ part := fun part member => (groups part member).not_mem rfl
  have dark : ∀ c ∈ join '.' parts, isBlank c = false :=
    not_isBlank_of_mem_join (by decide) fun part member => (groups part member).2
  have trimmed : trim (join '.' parts) = join '.' parts :=
    trim_of_dark_ends (fun c first => dark c (List.mem_of_head? first))
      (fun c last => dark c (List.mem_of_getLast? last))
  refine format_of_splitOn ?_ groups
  rw [String.toList_ofList, trimmed, splitOn_join nonempty undotted]

theorem format_append_zeros (h : format version = .ok text)
    (hzeros : ∀ zero ∈ zeros, zero ≠ [] ∧ ∀ c ∈ zero, c = '0') :
    format (String.ofList (trim version.toList ++ zeros.flatMap ('.' :: ·))) = .ok text := by
  obtain ⟨wellFormed, rfl⟩ := format_eq_ok_iff.mp h
  have given := splitOn_ne_nil '.' (trim version.toList)
  have groups : ∀ part ∈ splitOn '.' (trim version.toList) ++ zeros, IsGroup part := by
    refine List.forall_mem_append.mpr ⟨wellFormed, ?_⟩
    intro zero member
    obtain ⟨nonempty, isZero⟩ := hzeros zero member
    exact ⟨nonempty, fun c hc => isZero c hc ▸ rfl⟩
  have written : trim version.toList ++ zeros.flatMap ('.' :: ·) =
      join '.' (splitOn '.' (trim version.toList) ++ zeros) := by
    rw [join_append given, join_splitOn]
  rw [written, format_join (by simp [given]) groups, normalForm_append_zeros given]
  exact fun zero member => (hzeros zero member).2

/-- What stands for a version, dotted again, is a version for which the same stands. -/
theorem format_dotted (h : format version = .ok text) :
    format (String.ofList (text.map fun c => if c = '_' then '.' else c)) = .ok text := by
  obtain ⟨wellFormed, rfl⟩ := format_eq_ok_iff.mp h
  have groups : ∀ part ∈ normal version, IsGroup part :=
    fun part member => wellFormed part (mem_of_mem_normalForm member)
  rw [← normal, map_join wellFormed.underscore_not_mem, format_join (normal_ne_nil version) groups,
    normal, normalForm_normalForm]

/-- Exactly the versions whose components are runs of letters and digits have a form in names. It is
made of such runs between single underscores, and only a run that stands alone may be all zeros. Two
versions have the same form if and only if they agree in their components without the zeros at their
end. Blank characters around a version and further zeros at its end do not change its form, and the
form of the form, dotted again, is the same once more. -/
theorem format_normalizes (version : String) :
    ((∃ text, format version = .ok text) ↔ WellFormed version) ∧
    ∀ text, format version = .ok text →
      text ≠ [] ∧ (∀ group ∈ splitOn '_' text, IsGroup group) ∧
      (∀ front last, splitOn '_' text = front ++ [last] → front ≠ [] → ∃ c ∈ last, c ≠ '0') ∧
      (∀ version' text', format version' = .ok text' →
        (text = text' ↔ ∃ kept, Normal (splitOn '.' (trim version.toList)) kept ∧
          Normal (splitOn '.' (trim version'.toList)) kept)) ∧
      (∀ front back, (∀ c ∈ front, isBlank c = true) → (∀ c ∈ back, isBlank c = true) →
        format (String.ofList (front ++ version.toList ++ back)) = .ok text) ∧
      (∀ zeros : List (List Char), (∀ zero ∈ zeros, zero ≠ [] ∧ ∀ c ∈ zero, c = '0') →
        format (String.ofList (trim version.toList ++ zeros.flatMap ('.' :: ·))) = .ok text) ∧
      format (String.ofList (text.map fun c => if c = '_' then '.' else c)) = .ok text := by
  constructor
  · simp only [format_eq_ok_iff, exists_and_left, exists_eq, and_true]
  · intro text h
    exact ⟨ne_nil_of_format h, fun _ => isGroup_of_mem_splitOn h,
      fun _ _ => exists_ne_zero_of_splitOn h, fun _ _ => format_eq_iff h,
      fun _ _ hfront hback => format_append_of_blank hfront hback h,
      fun _ => format_append_zeros h, format_dotted h⟩

/-- Of `1.0a.00.0` between blank characters the last two components count for nothing. -/
theorem format_of_padded :
    format " 1.0a.00.0\u3000" = .ok "1_0a".toList ∧ (∃ c ∈ "0a".toList, c ≠ '0') ∧
      (∃ kept, Normal (splitOn '.' (trim " 1.0a.00.0\u3000".toList)) kept ∧
        Normal (splitOn '.' (trim "1.0a".toList)) kept) ∧
      format "\t1.0a" = .ok "1_0a".toList ∧ format "1.0a.0.000" = .ok "1_0a".toList := by
  have padded : format " 1.0a.00.0\u3000" = .ok "1_0a".toList := by rfl
  have short : format "1.0a" = .ok "1_0a".toList := by rfl
  obtain ⟨-, -, nonzero, alike, -⟩ := (format_normalizes " 1.0a.00.0\u3000").2 _ padded
  obtain ⟨-, -, -, -, surrounded, followed, -⟩ := (format_normalizes "1.0a").2 _ short
  exact ⟨padded, nonzero ["1".toList] "0a".toList rfl (by decide), (alike _ _ short).mp rfl,
    surrounded ['\t'] [] (by simp [isBlank]) (by simp),
    followed ["0".toList, "000".toList] (by simp)⟩

end Reminders.Consumer.Version
