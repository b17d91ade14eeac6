import Mathlib.Data.List.Infix
import Reminders.Consumer.Resolution

/-!
# Base names of declaring types

What a type's name is without its qualification and without a conventional suffix is told here by
its place in the name: `IsUnqualified` says that nothing after the last double colon is lost, and
`IsBase` which of the two suffixes is taken off. `baseName` finds exactly these, and it fails if
nothing is left.
-/

namespace Reminders.Consumer

open Text (dropSuffix? dropSuffix?_eq_some_iff)

/-- A name without its qualification: what follows the last double colon, or the whole name if
there is none. Every double colon has it behind itself. -/
structure IsUnqualified (name simple : List Char) : Prop where
  cut : simple = name ∨ ∃ front, name = front ++ ':' :: ':' :: simple
  last : ∀ front rest, name = front ++ ':' :: ':' :: rest → simple <:+ rest

theorem IsUnqualified.unique {name simple simple' : List Char} (h : IsUnqualified name simple)
    (h' : IsUnqualified name simple') : simple = simple' := by
  -- A name that is its own unqualified form cannot stand behind one of its double colons.
  have whole {t u : List Char} (ht : IsUnqualified name t) (hu : u = name)
      (cut : ∃ front, name = front ++ ':' :: ':' :: t) (hu' : IsUnqualified name u) : False := by
    obtain ⟨front, cut⟩ := cut
    have short := (hu'.last front t cut).length_le
    rw [hu, cut] at short
    simp only [List.length_append, List.length_cons] at short
    omega
  rcases h.cut with rfl | ⟨front, cut⟩
  · rcases h'.cut with rfl | cut'
    · rfl
    · exact (whole h' rfl cut' h).elim
  · rcases h'.cut with rfl | ⟨front', cut'⟩
    · exact (whole h rfl ⟨front, cut⟩ h').elim
    · have suffix := h.last front' simple' cut'
      have suffix' := h'.last front simple cut
      exact suffix.eq_of_length_le suffix'.length_le

/-- What precedes the first double colon of a text, or the whole text if there is none. -/
theorem beforeQualifier_spec (cs : List Char) :
    (beforeQualifier cs = cs ∨ ∃ rest, cs = beforeQualifier cs ++ ':' :: ':' :: rest) ∧
      ∀ front rest, cs = front ++ ':' :: ':' :: rest → beforeQualifier cs <+: front := by
  fun_induction beforeQualifier cs with
  | case1 => simp
  | case2 rest => exact ⟨.inr ⟨rest, rfl⟩, fun front _ _ => List.nil_prefix⟩
  | case3 c cs open_ ih =>
      obtain ⟨cut, first⟩ := ih
      constructor
      · rcases cut with cut | ⟨rest, cut⟩
        · exact .inl (by rw [cut])
        · exact .inr ⟨rest, by rw [List.cons_append, ← cut]⟩
      · intro front rest h
        cases front with
        | nil =>
            rw [List.nil_append] at h
            obtain ⟨rfl, rfl⟩ := List.cons.inj h
            exact (open_ rest rfl rfl).elim
        | cons d front =>
            obtain ⟨rfl, rfl⟩ := List.cons.inj h
            exact List.prefix_cons_inj _ |>.mpr (first front rest rfl)

theorem isUnqualified_unqualified (name : List Char) : IsUnqualified name (unqualified name) := by
  obtain ⟨cut, first⟩ := beforeQualifier_spec name.reverse
  constructor
  · rcases cut with cut | ⟨rest, cut⟩
    · exact .inl (by rw [unqualified, cut, List.reverse_reverse])
    · refine .inr ⟨rest.reverse, ?_⟩
      have whole := congrArg List.reverse cut
      simpa [unqualified] using whole
  · intro front rest h
    have placed : name.reverse = rest.reverse ++ ':' :: ':' :: front.reverse := by simp [h]
    rw [unqualified, ← List.reverse_prefix, List.reverse_reverse]
    exact first _ _ placed

theorem unqualified_eq_iff {name simple : List Char} :
    unqualified name = simple ↔ IsUnqualified name simple := by
  constructor
  · rintro rfl
    exact isUnqualified_unqualified name
  · exact (isUnqualified_unqualified name).unique

/-- An unqualified name without its conventional suffix. The longer suffix ends in the shorter one,
so a name without the shorter one has neither. -/
inductive IsBase (simple : List Char) : List Char → Prop where
  | long {base : List Char} (ends : base ++ "EventController".toList = simple) : IsBase simple base
  | short {base : List Char} (ends : base ++ "Controller".toList = simple)
      (notLong : ¬ "EventController".toList <:+ simple) : IsBase simple base
  | whole (none : ¬ "Controller".toList <:+ simple) : IsBase simple simple

theorem dropSuffix?_eq_none_iff {suffix cs : List Char} :
    dropSuffix? suffix cs = none ↔ ¬ suffix <:+ cs := by
  rw [Option.eq_none_iff_forall_ne_some]
  simp only [ne_eq, dropSuffix?_eq_some_iff]
  exact not_exists.symm

theorem not_long_of_not_short {simple : List Char} (h : ¬ "Controller".toList <:+ simple) :
    ¬ "EventController".toList <:+ simple := by
  have ends : "Controller".toList <:+ "EventController".toList := by decide
  exact fun long => h (ends.trans long)

/-- The conventional suffix of a name, with what precedes it. -/
def suffixed? (simple : List Char) : Option (String × List Char) :=
  conventionalSuffixes.findSome? fun suffix =>
    (dropSuffix? suffix.toList simple).map fun base => (suffix, base)

theorem isBase_of_suffixed {simple base : List Char} {suffix : String}
    (h : suffixed? simple = some (suffix, base)) :
    suffix ∈ conventionalSuffixes ∧ base ++ suffix.toList = simple ∧ IsBase simple base := by
  simp only [suffixed?, conventionalSuffixes, List.findSome?_cons, List.findSome?_nil] at h
  cases long : dropSuffix? "EventController".toList simple with
  | some front =>
      rw [long] at h
      cases h
      rw [dropSuffix?_eq_some_iff] at long
      exact ⟨by decide, long, .long long⟩
  | none =>
      cases short : dropSuffix? "Controller".toList simple with
      | some front =>
          rw [long, short] at h
          cases h
          rw [dropSuffix?_eq_some_iff] at short
          exact ⟨by decide, short, .short short (dropSuffix?_eq_none_iff.mp long)⟩
      | none =>
          rw [long, short] at h
          cases h

theorem isBase_of_not_suffixed {simple : List Char} (h : suffixed? simple = none) :
    IsBase simple simple := by
  simp only [suffixed?, List.findSome?_eq_none_iff, Option.map_eq_none_iff,
    dropSuffix?_eq_none_iff] at h
  exact .whole (h "Controller" (by decide))

theorem exists_isBase (simple : List Char) : ∃ base, IsBase simple base := by
  cases h : suffixed? simple with
  | none => exact ⟨simple, isBase_of_not_suffixed h⟩
  | some found => exact ⟨found.2, (isBase_of_suffixed h).2.2⟩

theorem IsBase.unique {simple base base' : List Char} (h : IsBase simple base)
    (h' : IsBase simple base') : base = base' := by
  have notShort {front : List Char} (ends : front ++ "EventController".toList = simple)
      (none : ¬ "Controller".toList <:+ simple) : False :=
    not_long_of_not_short none ⟨front, ends⟩
  cases h with
  | long ends =>
      cases h' with
      | long ends' => exact List.append_cancel_right (ends.trans ends'.symm)
      | short _ notLong => exact (notLong ⟨base, ends⟩).elim
      | whole none => exact (notShort ends none).elim
  | short ends notLong =>
      cases h' with
      | long ends' => exact (notLong ⟨base', ends'⟩).elim
      | short ends' _ => exact List.append_cancel_right (ends.trans ends'.symm)
      | whole none => exact (none ⟨base, ends⟩).elim
  | whole none =>
      cases h' with
      | long ends' => exact (notShort ends' none).elim
      | short ends' _ => exact (none ⟨base', ends'⟩).elim
      | whole _ => rfl

/-- Only a name that is empty or nothing but a suffix has an empty base. -/
theorem isBase_nil_iff {simple : List Char} :
    IsBase simple [] ↔ simple = [] ∨ ∃ suffix ∈ conventionalSuffixes, simple = suffix.toList := by
  constructor
  · rintro (ends | ⟨ends, -⟩ | -)
    · exact .inr ⟨"EventController", by decide, ends.symm⟩
    · exact .inr ⟨"Controller", by decide, ends.symm⟩
    · exact .inl rfl
  · rintro (rfl | ⟨suffix, member, rfl⟩)
    · exact .whole (by decide)
    · simp only [conventionalSuffixes, List.mem_cons, List.not_mem_nil, or_false] at member
      rcases member with rfl | rfl
      · exact .long rfl
      · exact .short rfl (by decide)

/-- A type has a base name if something is left of its unqualified name. -/
theorem baseName_eq_ok_iff {typeName : String} {base : List Char} :
    baseName typeName = .ok base ↔
      ∃ simple, IsUnqualified typeName.toList simple ∧ IsBase simple base ∧ base ≠ [] := by
  simp only [← unqualified_eq_iff, exists_eq_left', baseName, List.isEmpty_iff]
  generalize unqualified typeName.toList = simple
  split
  · next empty =>
      subst empty
      have none := isBase_nil_iff.mpr (.inl rfl)
      constructor
      · nofun
      · rintro ⟨h, left⟩
        exact (left (h.unique none)).elim
  · next nonempty =>
      split
      · next none =>
          have whole := isBase_of_not_suffixed none
          constructor
          · rintro ⟨⟩
            exact ⟨whole, nonempty⟩
          · rintro ⟨h, -⟩
            rw [h.unique whole]
      · next suffix found =>
          obtain ⟨-, -, nothing⟩ := isBase_of_suffixed found
          constructor
          · nofun
          · rintro ⟨h, left⟩
            exact (left (h.unique nothing)).elim
      · next suffix front some found =>
          obtain ⟨-, -, stripped⟩ := isBase_of_suffixed found
          constructor
          · rintro ⟨⟩
            exact ⟨stripped, by simpa using some⟩
          · rintro ⟨h, -⟩
            rw [h.unique stripped]

/-- A name that leaves no base, with the fault it makes. -/
inductive Baseless (simple : List Char) : Fault → Prop where
  | empty (nothing : simple = []) : Baseless simple .emptyType
  | suffix {suffix : String} (member : suffix ∈ conventionalSuffixes)
      (only : simple = suffix.toList) : Baseless simple (.suffixOnly suffix suffix)

theorem Baseless.unique {simple : List Char} {fault fault' : Fault} (h : Baseless simple fault)
    (h' : Baseless simple fault') : fault = fault' := by
  have nonempty {suffix : String} (member : suffix ∈ conventionalSuffixes) :
      suffix.toList ≠ [] := by
    revert suffix
    decide
  cases h with
  | empty nothing =>
      cases h' with
      | empty => rfl
      | suffix member only => exact (nonempty member (only.symm.trans nothing)).elim
  | suffix member only =>
      cases h' with
      | empty nothing => exact (nonempty member (only.symm.trans nothing)).elim
      | suffix member' only' => rw [String.toList_inj.mp (only.symm.trans only')]

theorem Baseless.isBase_nil {simple : List Char} {fault : Fault} (h : Baseless simple fault) :
    IsBase simple [] := by
  rw [isBase_nil_iff]
  cases h with
  | empty nothing => exact .inl nothing
  | suffix member only => exact .inr ⟨_, member, only⟩

theorem baseless_of_baseName {typeName : String} {fault : Fault}
    (h : baseName typeName = .error fault) : Baseless (unqualified typeName.toList) fault := by
  simp only [baseName, List.isEmpty_iff] at h
  split at h
  · next empty =>
      cases h
      exact .empty empty
  · split at h
    · cases h
    · next suffix found =>
        cases h
        obtain ⟨member, ends, -⟩ := isBase_of_suffixed found
        rw [List.nil_append] at ends
        rw [← ends, String.ofList_toList]
        exact .suffix member rfl
    · cases h

/-- A type has no base name if its unqualified name is empty or nothing but a suffix. -/
theorem baseName_eq_error_iff {typeName : String} {fault : Fault} :
    baseName typeName = .error fault ↔
      ∃ simple, IsUnqualified typeName.toList simple ∧ Baseless simple fault := by
  simp only [← unqualified_eq_iff, exists_eq_left']
  constructor
  · exact baseless_of_baseName
  · intro baseless
    cases named : baseName typeName with
    | error fault' => rw [(baseless_of_baseName named).unique baseless]
    | ok base =>
        obtain ⟨simple, unqualified, stripped, left⟩ := baseName_eq_ok_iff.mp named
        rw [← unqualified_eq_iff] at unqualified
        subst unqualified
        exact (left (stripped.unique baseless.isBase_nil)).elim

end Reminders.Consumer
