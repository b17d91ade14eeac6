import Reminders.Json.Skip
import Reminders.Proofs.Json.Grammar

/-!
# Well-formed values are passed over

What a member's name does not ask for is skipped. `Forms` tells which texts begin with a value, of
any kind and nested to any depth, without saying what the value is, so a half of a surrogate pair
may stand alone in a string. Every such value is passed over to its end, inside whatever brackets
are open around it (`passes_of_forms`).
-/

namespace Reminders.Json

open Source (skipBlank)
open Text (decimal?)

namespace Grammar

/-- The rest of a string behind its opening quote, up to the closing one. -/
inductive Closes : List Char → List Char → Prop where
  | quote {rest : List Char} : Closes ('"' :: rest) rest
  | plain {c : Char} {s rest : List Char} (quote : c ≠ '"') (backslash : c ≠ '\\')
      (visible : 0x20 ≤ c.toNat) (more : Closes s rest) : Closes (c :: s) rest
  | short {c d : Char} {s rest : List Char} (escape : (c, d) ∈ shortEscapes)
      (more : Closes s rest) : Closes ('\\' :: c :: s) rest
  | unit {n : Nat} {ds s rest : List Char} (digits : Unit ds n) (more : Closes s rest) :
      Closes ('\\' :: 'u' :: (ds ++ s)) rest

/-- What the rules of the format are about: a value, or what stands behind the opening bracket of a
list or of an object that is not empty. -/
inductive Part where
  | value
  | elements
  | members

def words : List (List Char) :=
  [['n', 'u', 'l', 'l'], ['t', 'r', 'u', 'e'], ['f', 'a', 'l', 's', 'e']]

/-- A text begins with a part, which ends before the rest of it. -/
inductive Forms : Part → List Char → List Char → Prop where
  | word {w rest : List Char} (word : w ∈ words) : Forms .value (w ++ rest) rest
  | number {cs rest : List Char} (numeral : Numeral cs) : Forms .value (cs ++ rest) rest
  | string {s rest : List Char} (closes : Closes s rest) : Forms .value ('"' :: s) rest
  | noElements {s rest : List Char} (close : Blank s (']' :: rest)) : Forms .value ('[' :: s) rest
  | list {s rest : List Char} (elements : Forms .elements s rest) : Forms .value ('[' :: s) rest
  | noMembers {s rest : List Char} (close : Blank s ('\x7d' :: rest)) :
      Forms .value ('\x7b' :: s) rest
  | object {s rest : List Char} (members : Forms .members s rest) : Forms .value ('\x7b' :: s) rest
  | lastElement {s s₁ s₂ rest : List Char} (before : Blank s s₁) (element : Forms .value s₁ s₂)
      (after : Blank s₂ (']' :: rest)) : Forms .elements s rest
  | nextElement {s s₁ s₂ s₃ rest : List Char} (before : Blank s s₁) (element : Forms .value s₁ s₂)
      (after : Blank s₂ (',' :: s₃)) (more : Forms .elements s₃ rest) : Forms .elements s rest
  | lastMember {s s₁ s₂ s₃ s₄ s₅ rest : List Char} (before : Blank s ('"' :: s₁))
      (name : Closes s₁ s₂) (colon : Blank s₂ (':' :: s₃)) (space : Blank s₃ s₄)
      (value : Forms .value s₄ s₅) (after : Blank s₅ ('\x7d' :: rest)) : Forms .members s rest
  | nextMember {s s₁ s₂ s₃ s₄ s₅ s₆ rest : List Char} (before : Blank s ('"' :: s₁))
      (name : Closes s₁ s₂) (colon : Blank s₂ (':' :: s₃)) (space : Blank s₃ s₄)
      (value : Forms .value s₄ s₅) (after : Blank s₅ (',' :: s₆)) (more : Forms .members s₆ rest) :
      Forms .members s rest

/-- A blank of the format is one that is skipped. -/
theorem isBlank_some_iff {c : Char} : Source.isBlank (some c) = true ↔ c ∈ blanks := by
  simp [Source.isBlank, blanks, or_assoc, or_left_comm]

theorem skipBlank_cons {c : Char} (solid : c ∉ blanks) (s : Source) :
    skipBlank (some c :: s) = some c :: s :=
  List.dropWhile_cons_of_neg (by rwa [isBlank_some_iff])

theorem skipBlank_of_blank {s rest : List Char} (h : Blank s rest) :
    skipBlank (s.map some) = skipBlank (rest.map some) := by
  induction h with
  | none => rfl
  | cons blank more ih =>
      rw [List.map_cons, skipBlank, List.dropWhile_cons_of_pos (isBlank_some_iff.mpr blank)]
      exact ih

/-- The blanks before a character are passed over. -/
theorem skipBlank_of_solid {c : Char} {s rest : List Char} (h : Blank s (c :: rest))
    (solid : c ∉ blanks) : skipBlank (s.map some) = some c :: rest.map some :=
  (skipBlank_of_blank h).trans (skipBlank_cons solid _)

end Grammar

namespace Source

open Grammar (blanks)

/-- What may stand behind a value: nothing, a blank, or what goes on in a list or an object. -/
def Ends (t : Source) : Prop :=
  ∀ item ∈ t.head?, isBlank item = true ∨ item ∈ [some ',', some ']', some '\x7d']

theorem ends_of_blank {c : Char} {s rest : List Char} (h : Grammar.Blank s (c :: rest))
    (separates : c ∈ [',', ']', '\x7d']) : Ends (s.map some) := by
  cases h with
  | none =>
      rintro item ⟨⟩
      exact .inr (List.mem_map_of_mem separates)
  | cons blank more =>
      rintro item ⟨⟩
      exact .inl (Grammar.isBlank_some_iff.mpr blank)

/-- Other characters do not stand behind a value. -/
theorem Ends.head?_ne {t : Source} (h : Ends t) {c : Char}
    (other : c ∉ blanks ++ [',', ']', '\x7d']) : t.head? ≠ some (some c) := by
  intro head
  refine other (List.mem_append.mpr ?_)
  rcases h (some c) head with blank | separator
  · exact .inl (Grammar.isBlank_some_iff.mp blank)
  · exact .inr (by simpa using separator)

end Source

section Numbers

open Grammar (Digits Numeral)
open Source (Ends)

variable {ds : List Char} {s t : Source}

theorem isSome_decimal?_iff {c : Char} : (decimal? c).isSome = true ↔ c.isDigit = true := by
  have bounds : c.isDigit = true ↔ '0' ≤ c ∧ c ≤ '9' := by
    simp only [Char.isDigit, Bool.and_eq_true, decide_eq_true_eq]
    rfl
  rw [bounds, decimal?]
  split
  · next digit => simp [digit]
  · next other => simp [other]

theorem startsWithDigit_cons (c : Char) (s : Source) :
    startsWithDigit (some c :: s) = c.isDigit := by
  rw [Bool.eq_iff_iff]
  exact isSome_decimal?_iff

theorem startsWithDigit_of_ends (ends : Ends t) : startsWithDigit t = false := by
  cases t with
  | nil => rfl
  | cons item t =>
      cases item with
      | none => rfl
      | some c =>
          rw [startsWithDigit_cons, Bool.eq_false_iff]
          intro digit
          have foreign : ∀ c ∈ Grammar.blanks ++ [',', ']', '\x7d'], ¬c.isDigit = true := by
            simp [Grammar.blanks]
          exact ends.head?_ne (fun mem => foreign c mem digit) rfl

theorem startsWithDigit_digits (digits : Digits ds) (s : Source) :
    startsWithDigit (ds.map some ++ s) = true := by
  obtain ⟨nonempty, digits⟩ := digits
  obtain ⟨d, ds, rfl⟩ := List.exists_cons_of_ne_nil nonempty
  exact (startsWithDigit_cons d _).trans (digits d List.mem_cons_self)

theorem dropDigits_of_not_digit (h : startsWithDigit s = false) : dropDigits s = s := by
  cases s with
  | nil => rfl
  | cons item s =>
      refine List.dropWhile_cons_of_neg ?_
      cases item with
      | none => simp
      | some c => simpa [startsWithDigit] using h

theorem dropDigits_digits (digits : ∀ c ∈ ds, c.isDigit = true) (s : Source) :
    dropDigits (ds.map some ++ s) = dropDigits s := by
  refine List.dropWhile_append_of_pos ?_
  intro item mem
  obtain ⟨c, mem', rfl⟩ := List.mem_map.mp mem
  exact isSome_decimal?_iff.mpr (digits c mem')

/-- What is no exponent is not passed over. -/
theorem skipExponent_of_ends (ends : Ends t) : skipExponent t = .ok t := by
  unfold skipExponent
  split
  · exact absurd rfl (ends.head?_ne (by decide))
  · exact absurd rfl (ends.head?_ne (by decide))
  · rfl

theorem skipExponent_of_digits {e : Char} {sign : List Char} (mark : e ∈ ['e', 'E'])
    (sign_mem : sign ∈ [[], ['+'], ['-']]) (digits : Digits ds) (ends : Ends t) :
    skipExponent ((e :: sign ++ ds).map some ++ t) = .ok t := by
  have unsigned : dropSign ((sign ++ ds).map some ++ t) = ds.map some ++ t := by
    simp only [List.mem_cons, List.not_mem_nil, or_false] at sign_mem
    rcases sign_mem with rfl | rfl | rfl
    · obtain ⟨d, ds, rfl⟩ := List.exists_cons_of_ne_nil digits.1
      have digit := digits.2 d List.mem_cons_self
      unfold dropSign
      split
      · next same =>
          cases same
          cases digit
      · next same =>
          cases same
          cases digit
      · rfl
    · rfl
    · rfl
  have passed : (if startsWithDigit (dropSign ((sign ++ ds).map some ++ t)) then
      .ok (dropDigits (dropSign ((sign ++ ds).map some ++ t))) else .error .malformed) =
      (.ok t : Except Fault Source) := by
    rw [unsigned, if_pos (startsWithDigit_digits digits t), dropDigits_digits digits.2,
      dropDigits_of_not_digit (startsWithDigit_of_ends ends)]
  simp only [List.mem_cons, List.not_mem_nil, or_false] at mark
  rcases mark with rfl | rfl
  · exact passed
  · exact passed

theorem skipExponent_of_numeral {exponent : List Char}
    (hasExponent : exponent = [] ∨ ∃ e ∈ ['e', 'E'], ∃ sign ∈ [[], ['+'], ['-']], ∃ ds,
      Digits ds ∧ exponent = e :: sign ++ ds) (ends : Ends t) :
    startsWithDigit (exponent.map some ++ t) = false ∧
      (exponent.map some ++ t).head? ≠ some (some '.') ∧
      skipExponent (exponent.map some ++ t) = .ok t := by
  rcases hasExponent with rfl | ⟨e, mark, sign, sign_mem, ds, digits, rfl⟩
  · exact ⟨startsWithDigit_of_ends ends, ends.head?_ne (by decide),
      skipExponent_of_ends ends⟩
  · refine ⟨?_, ?_, skipExponent_of_digits mark sign_mem digits ends⟩
    all_goals
      simp only [List.mem_cons, List.not_mem_nil, or_false] at mark
      rcases mark with rfl | rfl
    · rfl
    · rfl
    · simp
    · simp

theorem skipFraction_of_numeral {fraction exponent : List Char}
    (hasFraction : fraction = [] ∨ ∃ ds, Digits ds ∧ fraction = '.' :: ds)
    (hasExponent : exponent = [] ∨ ∃ e ∈ ['e', 'E'], ∃ sign ∈ [[], ['+'], ['-']], ∃ ds,
      Digits ds ∧ exponent = e :: sign ++ ds) (ends : Ends t) :
    startsWithDigit ((fraction ++ exponent).map some ++ t) = false ∧
      skipFraction ((fraction ++ exponent).map some ++ t) = .ok t := by
  obtain ⟨notDigit, notPoint, passed⟩ := skipExponent_of_numeral hasExponent ends
  rcases hasFraction with rfl | ⟨ds, digits, rfl⟩
  · refine ⟨notDigit, ?_⟩
    rw [List.nil_append]
    unfold skipFraction
    split
    · next same => simp [same] at notPoint
    · exact passed
  · refine ⟨rfl, ?_⟩
    rw [List.cons_append, List.map_cons, List.map_append, List.cons_append, List.append_assoc,
      skipFraction, if_pos (startsWithDigit_digits digits _), dropDigits_digits digits.2,
      dropDigits_of_not_digit notDigit, passed]

/-- A number is passed over if it does not go on behind its last digit. -/
theorem skipScalar_of_numeral {cs : List Char} (numeral : Numeral cs) (ends : Ends t) :
    skipScalar (cs.map some ++ t) = .ok t := by
  obtain ⟨sign_mem, ⟨nonempty, digits⟩, short, hasFraction, hasExponent⟩ := numeral
  rename_i sign whole fraction exponent
  obtain ⟨notDigit, passed⟩ := skipFraction_of_numeral hasFraction hasExponent ends
  obtain ⟨d, ds, rfl⟩ := List.exists_cons_of_ne_nil nonempty
  obtain ⟨digit, digits⟩ := List.forall_mem_cons.mp digits
  have unsigned : skipNumber ((d :: ds ++ fraction ++ exponent).map some ++ t) = .ok t := by
    rw [List.append_assoc, List.map_append, List.append_assoc, List.map_cons, List.cons_append]
    unfold skipNumber
    split
    · next same =>
        cases same
        obtain rfl : ds = [] := List.tail_eq_of_cons_eq (short rfl)
        rw [List.map_nil, List.nil_append, notDigit, if_neg Bool.false_ne_true, passed]
    · next same =>
        cases same
        rw [if_pos (isSome_decimal?_iff.mpr digit), dropDigits_digits digits,
          dropDigits_of_not_digit notDigit, passed]
    · next other => exact absurd rfl (other _ _)
  simp only [List.mem_cons, List.not_mem_nil, or_false] at sign_mem
  rcases sign_mem with rfl | rfl
  · have noWord : wordFrom? d = none := by
      unfold wordFrom?
      split
      · cases digit
      · cases digit
      · cases digit
      · rfl
    rw [← unsigned, List.nil_append, List.cons_append, List.cons_append, List.map_cons,
      List.cons_append]
    unfold skipScalar
    split
    · next same =>
        cases same
        cases digit
    · next same =>
        cases same
        cases digit
    · next same =>
        cases same
        simp only [noWord]
    · next other => exact absurd rfl (other _ _)
  · exact unsigned

end Numbers

section Strings

open Grammar (Closes shortEscapes)

variable {c d : Char} {s rest : Source}

theorem skipString_plain (quote : c ≠ '"') (backslash : c ≠ '\\') (visible : ¬c.toNat < 0x20) :
    skipString (some c :: s) = skipString s := by
  rw [skipString]
  · rw [if_neg visible]
  all_goals simp_all

theorem skipString_short (escape : (c, d) ∈ shortEscapes) :
    skipString (some '\\' :: some c :: s) = skipString s := by
  simp only [shortEscapes, List.mem_cons, Prod.mk.injEq, List.not_mem_nil, or_false] at escape
  rcases escape with h | h | h | h | h | h | h | h
  all_goals
    obtain ⟨rfl, rfl⟩ := h
    rw [skipString]
    · rfl
    · decide

theorem skipString_unit {u : Source} {n : Nat} (unit : readUnit u = .ok (n, rest)) :
    skipString (some '\\' :: some 'u' :: u) = skipString rest := by
  rw [skipString]
  split
  · next fails => cases fails.symm.trans unit
  · next reads =>
      cases reads.symm.trans unit
      rfl

/-- A string is passed over up to its closing quote. -/
theorem skipString_of_closes {s rest : List Char} (h : Closes s rest) :
    skipString (s.map some) = .ok (rest.map some) := by
  induction h with
  | quote => rw [List.map_cons, skipString]
  | plain quote backslash visible more ih =>
      rw [List.map_cons, skipString_plain quote backslash (by omega), ih]
  | short escape more ih => rw [List.map_cons, List.map_cons, skipString_short escape, ih]
  | unit digits more ih =>
      rw [List.map_cons, List.map_cons, List.map_append,
        skipString_unit (Grammar.readUnit_of_unit digits _), ih]

end Strings

section Values

open Grammar (Blank Closes Forms Numeral Part blanks skipBlank_cons skipBlank_of_blank
  skipBlank_of_solid)
open Source (Ends ends_of_blank)

variable {frames : List Frame} {frame : Frame} {item : Option Char} {s rest rest' : Source}

theorem skipName_of_closes {s s₁ s₂ rest : List Char} (before : Blank s ('"' :: s₁))
    (name : Closes s₁ s₂) (colon : Blank s₂ (':' :: rest)) :
    skipName (s.map some) = .ok (rest.map some) := by
  have after : skipColon (s₂.map some) = .ok (rest.map some) := by
    simp only [skipColon, skipBlank_of_solid colon (by decide)]
  simp only [skipName, skipBlank_of_solid before (by decide), skipString_of_closes name, after]

@[simp] theorem skip_done (s : Source) : skip .behind [] s = .ok s := by
  rw [skip]

/-- Before a value, what it begins with decides. -/
theorem skip_before (frames : List Frame) (s : Source) :
    skip .before frames s =
      match skipBlank s with
      | [] => .error .truncated
      | some '[' :: rest =>
          match skipBlank rest with
          | [] => .error .truncated
          | some ']' :: rest' => skip .behind frames rest'
          | _ => skip .before (.list :: frames) rest
      | some '\x7b' :: rest =>
          match skipBlank rest with
          | [] => .error .truncated
          | some '\x7d' :: rest' => skip .behind frames rest'
          | _ =>
              match skipName rest with
              | .error f => .error f
              | .ok rest' => skip .before (.object :: frames) rest'
      | item :: rest =>
          match skipScalar (item :: rest) with
          | .error f => .error f
          | .ok rest' => skip .behind frames rest' := by
  rw [skip]
  split
  · next nothing => simp only [nothing]
  · next rest bracket =>
      simp only [bracket]
      split
      · next nothing => simp only [nothing]
      · next rest' close => simp only [close]
      · next more other =>
          split
          · next nothing => exact absurd nothing more
          · next rest' close => exact absurd close (other rest')
          · rfl
  · next rest brace =>
      simp only [brace]
      split
      · next nothing => simp only [nothing]
      · next rest' close => simp only [close]
      · next more other =>
          split
          · next fails =>
              split
              · next nothing => exact absurd nothing more
              · next rest' close => exact absurd close (other rest')
              · simp only [fails]
          · next passes =>
              split
              · next nothing => exact absurd nothing more
              · next rest' close => exact absurd close (other rest')
              · simp only [passes]
  · next item rest bracket brace begins =>
      simp only [begins]
      split
      · next fails => simp only [fails]
      · next passes => simp only [passes]

theorem skip_behind (frame : Frame) (outer : List Frame) (s : Source) :
    skip .behind (frame :: outer) s =
      match skipBlank s with
      | [] => .error .truncated
      | some ',' :: rest =>
          match frame with
          | .list => skip .before (frame :: outer) rest
          | .object =>
              match skipName rest with
              | .error f => .error f
              | .ok rest' => skip .before (frame :: outer) rest'
      | item :: rest =>
          if item = some frame.close then skip .behind outer rest else .error .malformed := by
  rw [skip]
  split
  · next nothing => simp only [nothing]
  · next rest comma =>
      simp only [comma]
      cases frame with
      | list => rfl
      | object =>
          simp only
          split
          · next fails => simp only [fails]
          · next passes => simp only [passes]
  · next item rest other begins =>
      simp only [begins]

theorem skip_before_congr {s' : Source} (same : skipBlank s = skipBlank s') :
    skip .before frames s = skip .before frames s' := by
  rw [skip_before, same, ← skip_before]

theorem skip_scalar (begins : skipBlank s = item :: rest) (bracket : item ≠ some '[')
    (brace : item ≠ some '\x7b') :
    skip .before frames s =
      match skipScalar (item :: rest) with
      | .error f => .error f
      | .ok rest' => skip .behind frames rest' := by
  rw [skip_before, begins]
  split
  · next h => cases h
  · next h => exact absurd (List.cons.inj h).1 bracket
  · next h => exact absurd (List.cons.inj h).1 brace
  · next h => rw [← h]

theorem skip_list (begins : skipBlank s = some '[' :: rest) (next : skipBlank rest = item :: rest')
    (open_ : item ≠ some ']') : skip .before frames s = skip .before (.list :: frames) rest := by
  rw [skip_before, begins]
  simp only
  split
  · next h => cases h.symm.trans next
  · next h =>
      cases h.symm.trans next
      exact absurd rfl open_
  · rfl

theorem skip_object (begins : skipBlank s = some '\x7b' :: rest)
    (next : skipBlank rest = item :: rest') (open_ : item ≠ some '\x7d') :
    skip .before frames s =
      match skipName rest with
      | .error f => .error f
      | .ok rest' => skip .before (.object :: frames) rest' := by
  rw [skip_before, begins]
  simp only
  split
  · next h => cases h.symm.trans next
  · next h =>
      cases h.symm.trans next
      exact absurd rfl open_
  · rfl

theorem skip_close (closes : skipBlank s = some frame.close :: rest) :
    skip .behind (frame :: frames) s = skip .behind frames rest := by
  rw [skip_behind, closes]
  cases frame with
  | list => rfl
  | object => rfl

/-- A number begins with a character of its own. -/
theorem exists_cons_of_numeral {cs : List Char} (numeral : Numeral cs) :
    ∃ c cs', cs = c :: cs' ∧ c ∉ blanks ∧ c ∉ ['[', ']', '\x7b'] := by
  have nonempty : cs ≠ [] := by
    obtain ⟨-, ⟨nonempty, -⟩, -, -, -⟩ := numeral
    simp [nonempty]
  obtain ⟨c, cs, rfl⟩ := List.exists_cons_of_ne_nil nonempty
  have begins := numeral.head_of_append (List.append_nil _).symm
  have foreign : ∀ c ∈ blanks ++ ['[', ']', '\x7b'], ¬(c = '-' ∨ c.isDigit = true) := by
    simp [blanks]
  refine ⟨c, cs, rfl, ?_, ?_⟩
  · exact fun mem => foreign c (List.mem_append_left _ mem) begins
  · exact fun mem => foreign c (List.mem_append_right _ mem) begins

/-- A value begins with a character that is neither a blank nor closes a list. -/
theorem exists_cons_of_forms {s rest : List Char} (h : Forms .value s rest) :
    ∃ c s', s = c :: s' ∧ c ∉ blanks ∧ c ≠ ']' := by
  cases h with
  | word word =>
      simp only [Grammar.words, List.mem_cons, List.not_mem_nil, or_false] at word
      rcases word with rfl | rfl | rfl
      all_goals exact ⟨_, _, rfl, by decide, by decide⟩
  | number numeral =>
      obtain ⟨c, cs, rfl, solid, foreign⟩ := exists_cons_of_numeral numeral
      exact ⟨c, _, rfl, solid, List.ne_of_not_mem_cons (List.not_mem_of_not_mem_cons foreign)⟩
  | string | noElements | list | noMembers | object => exact ⟨_, _, rfl, by decide, by decide⟩

theorem skipBlank_of_elements {s rest : List Char} (h : Forms .elements s rest) :
    ∃ c s', skipBlank (s.map some) = some c :: s' ∧ c ≠ ']' := by
  cases h with
  | lastElement before element | nextElement before element =>
      obtain ⟨c, s', rfl, solid, open_⟩ := exists_cons_of_forms element
      exact ⟨c, _, skipBlank_of_solid before solid, open_⟩

theorem skipBlank_of_members {s rest : List Char} (h : Forms .members s rest) :
    ∃ s', skipBlank (s.map some) = some '"' :: s' := by
  cases h with
  | lastMember before | nextMember before =>
      exact ⟨_, skipBlank_of_solid before (by decide)⟩

/-- What skipping comes to at the beginning of a part, with what stands behind it. -/
def Passes (part : Part) (s rest : Source) : Prop :=
  match part with
  | .value => Ends rest → ∀ frames, skip .before frames s = skip .behind frames rest
  | .elements => ∀ frames, skip .before (.list :: frames) s = skip .behind frames rest
  | .members => ∃ s', skipName s = .ok s' ∧
      ∀ frames, skip .before (.object :: frames) s' = skip .behind frames rest

/-- Every part of a value is passed over. -/
theorem passes_of_forms {part : Part} {s rest : List Char} (h : Forms part s rest) :
    Passes part (s.map some) (rest.map some) := by
  induction h with
  | word word =>
      intro ends frames
      simp only [Grammar.words, List.mem_cons, List.not_mem_nil, or_false] at word
      rcases word with rfl | rfl | rfl
      all_goals
        exact skip_scalar (skipBlank_cons (by decide) _) (by decide) (by decide)
  | number numeral =>
      intro ends frames
      have scalar := skipScalar_of_numeral numeral ends
      obtain ⟨c, cs, rfl, solid, foreign⟩ := exists_cons_of_numeral numeral
      have bracket : some c ≠ some '[' := by
        rintro ⟨⟩
        exact absurd (by decide) foreign
      have brace : some c ≠ some '\x7b' := by
        rintro ⟨⟩
        exact absurd (by decide) foreign
      rw [List.map_cons, List.cons_append] at scalar
      rw [List.map_append, List.map_cons, List.cons_append,
        skip_scalar (skipBlank_cons solid _) bracket brace, scalar]
  | string closes =>
      intro ends frames
      have scalar : skipScalar (some '"' :: _) = _ := skipString_of_closes closes
      rw [List.map_cons, skip_scalar (skipBlank_cons (by decide) _) (by decide) (by decide), scalar]
  | noElements close =>
      intro ends frames
      rw [skip_before, List.map_cons, skipBlank_cons (by decide)]
      simp only [skipBlank_of_solid close (by decide)]
  | list elements ih =>
      intro ends frames
      obtain ⟨c, s', next, open_⟩ := skipBlank_of_elements elements
      rw [List.map_cons, skip_list (skipBlank_cons (by decide) _) next (by simpa using open_), ih]
  | noMembers close =>
      intro ends frames
      rw [skip_before, List.map_cons, skipBlank_cons (by decide)]
      simp only [skipBlank_of_solid close (by decide)]
  | object members ih =>
      intro ends frames
      obtain ⟨s', next⟩ := skipBlank_of_members members
      obtain ⟨s'', named, passed⟩ := ih
      rw [List.map_cons, skip_object (skipBlank_cons (by decide) _) next (by decide), named]
      exact passed frames
  | lastElement before element after ih =>
      intro frames
      rw [skip_before_congr (skipBlank_of_blank before), ih (ends_of_blank after (by decide)),
        skip_close (skipBlank_of_solid after (by decide))]
  | nextElement before element after more ih ih' =>
      intro frames
      rw [skip_before_congr (skipBlank_of_blank before), ih (ends_of_blank after (by decide)),
        skip_behind, skipBlank_of_solid after (by decide)]
      exact ih' frames
  | lastMember before name colon space value after ih =>
      refine ⟨_, skipName_of_closes before name colon, ?_⟩
      intro frames
      rw [skip_before_congr (skipBlank_of_blank space), ih (ends_of_blank after (by decide)),
        skip_close (skipBlank_of_solid after (by decide))]
  | nextMember before name colon space value after more ih ih' =>
      obtain ⟨s', named, passed⟩ := ih'
      refine ⟨_, skipName_of_closes before name colon, ?_⟩
      intro frames
      rw [skip_before_congr (skipBlank_of_blank space), ih (ends_of_blank after (by decide)),
        skip_behind, skipBlank_of_solid after (by decide)]
      simp only [named, passed]

end Values

end Reminders.Json
