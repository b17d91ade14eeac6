import Mathlib.Data.List.DropRight
import Reminders.Json.Decoder
import Reminders.Proofs.Json.Skipping

/-!
# Reading in one pass

Everything that a value is made of is judged by its own text: if that is read, or is found to be of
the wrong kind, then so it is with more text behind it, and what is left grows by that text. Only a
number has to be told where it ends. This is shown for each of the readers, from the digits of an
escape (`readUnit_append`) to values that are skipped (`skip_append`) or are of no use where they
stand (`mismatch_append`).
-/

namespace Reminders.Json

open Source (Ends skipBlank)
open Text (decimal?)

variable {α β : Type}

/-- A text has been judged: it is decoded, or it is of the wrong kind. -/
def Judged : Except Fault α → Prop
  | .ok _ => True
  | .error f => f = .mismatched

/-- What is read with more text behind it. -/
def extend (t : Source) (p : α × Source) : α × Source := (p.1, p.2 ++ t)

theorem skipBlank_skipBlank (s : Source) : skipBlank (skipBlank s) = skipBlank s :=
  List.dropWhile_idempotent _ _

theorem skipBlank_append {s rest : Source} {item : Option Char}
    (begins : skipBlank s = item :: rest) (t : Source) :
    skipBlank (s ++ t) = item :: (rest ++ t) := by
  rw [skipBlank, List.dropWhile_append, ← skipBlank, begins]
  rfl

/-- What neither ends nor begins with a given character begins with something else. -/
theorem exists_cons_of_open {c : Char} {s : Source} (more : s ≠ [])
    (other : ∀ rest, s ≠ some c :: rest) : ∃ item rest, s = item :: rest ∧ item ≠ some c := by
  obtain ⟨item, rest, rfl⟩ := List.exists_cons_of_ne_nil more
  refine ⟨item, rest, rfl, ?_⟩
  rintro rfl
  exact other rest rfl

section Strings

variable {s : Source}

theorem readUnit_append {r : Except Fault (Nat × Source)} (h : readUnit s = r) (judged : Judged r)
    (t : Source) : readUnit (s ++ t) = r.map (extend t) := by
  subst h
  revert judged
  fun_cases readUnit s with
  | case1 a b c d rest n hex =>
      intro judged
      simp only [List.cons_append, readUnit, hex]
      rfl
  | case2 | case3 | case4 =>
      intro judged
      cases judged

theorem readLowHalf_append {high : Nat} {r : Except Fault (Char × Source)}
    (h : readLowHalf high s = r) (judged : Judged r) (t : Source) :
    readLowHalf high (s ++ t) = r.map (extend t) := by
  subst h
  revert judged
  fun_cases readLowHalf high s with
  | case1 | case2 | case5 | case6 =>
      intro judged
      cases judged
  | case3 rest f unit =>
      intro judged
      simp only [List.cons_append, readLowHalf, readUnit_append unit judged t]
      rfl
  | case4 rest low rest' unit isLow =>
      intro judged
      simp only [List.cons_append, readLowHalf, readUnit_append unit trivial t, Except.map, extend,
        if_pos isLow]

theorem readEscape_append {r : Except Fault (Char × Source)} (h : readEscape s = r)
    (judged : Judged r) (t : Source) : readEscape (s ++ t) = r.map (extend t) := by
  subst h
  revert judged
  fun_cases readEscape s with
  | case1 | case3 | case7 | case8 =>
      intro judged
      cases judged
  | case2 rest f unit =>
      intro judged
      simp only [List.cons_append, readEscape, readUnit_append unit judged t]
      rfl
  | case4 rest n rest' unit notLow isHigh =>
      intro judged
      simp only [List.cons_append, readEscape, readUnit_append unit trivial t, Except.map, extend,
        if_neg notLow, if_pos isHigh]
      exact readLowHalf_append rfl judged t
  | case5 rest n rest' unit notLow notHigh =>
      intro judged
      simp only [List.cons_append, readEscape, readUnit_append unit trivial t, Except.map, extend,
        if_neg notLow, if_neg notHigh]
  | case6 c rest other d short =>
      intro judged
      simp only [List.cons_append, readEscape, short]
      rfl

theorem readString_append {read : List Char} {sound : Bool} {r : Except Fault (String × Source)}
    (h : readString read sound s = r) (judged : Judged r) (t : Source) :
    readString read sound (s ++ t) = r.map (extend t) := by
  subst h
  fun_induction readString read sound s with
  | case1 | case4 | case7 => cases judged
  | case2 read sound rest ih =>
      rw [List.cons_append, readString, ih judged]
  | case3 read rest =>
      rw [List.cons_append, readString_quote]
      rfl
  | case5 read sound rest f escape =>
      have escape := readEscape_append escape judged t
      rw [List.cons_append, readString]
      split
      · next fails =>
          cases fails.symm.trans escape
          rfl
      · next reads => cases reads.symm.trans escape
  | case6 read sound rest c rest' escape ih =>
      rw [List.cons_append, readString_escape (readEscape_append escape trivial t), ih judged]
  | case8 read sound c rest quote backslash visible ih =>
      rw [List.cons_append, readString_plain quote backslash visible, ih judged]

theorem skipString_append {r : Except Fault Source} (h : skipString s = r) (judged : Judged r)
    (t : Source) : skipString (s ++ t) = r.map (· ++ t) := by
  subst h
  fun_induction skipString s with
  | case1 | case4 | case5 | case9 | case10 => cases judged
  | case2 rest ih =>
      rw [List.cons_append, skipString, ih judged]
  | case3 rest =>
      rw [List.cons_append, skipString]
      rfl
  | case6 rest f unit =>
      have unit := readUnit_append unit judged t
      rw [List.cons_append, List.cons_append, skipString]
      split
      · next fails =>
          cases fails.symm.trans unit
          rfl
      · next reads => cases reads.symm.trans unit
  | case7 rest n rest' unit ih =>
      rw [List.cons_append, List.cons_append,
        skipString_unit (readUnit_append unit trivial t), ih judged]
  | case8 c rest other short ih =>
      rw [List.cons_append, List.cons_append, skipString]
      · rw [if_pos short, ih judged]
      · exact other
  | case11 c rest quote last none_ unit escape visible ih =>
      have backslash : c ≠ '\\' := by
        cases rest with
        | nil => exact last rfl
        | cons item rest =>
            cases item with
            | none => exact none_ _ rfl
            | some d => exact escape d _ rfl
      rw [List.cons_append, skipString_plain quote backslash visible, ih judged]

end Strings

section Numbers

variable {s t : Source}

theorem startsWithDigit_append (ends : Ends t) (s : Source) :
    startsWithDigit (s ++ t) = startsWithDigit s := by
  cases s with
  | nil => exact startsWithDigit_of_ends ends
  | cons item s => cases item <;> rfl

theorem dropDigits_append (ends : Ends t) (s : Source) :
    dropDigits (s ++ t) = dropDigits s ++ t := by
  rw [dropDigits, List.dropWhile_append, ← dropDigits, ← dropDigits,
    dropDigits_of_not_digit (startsWithDigit_of_ends ends)]
  split
  · next nothing => rw [List.isEmpty_iff.mp nothing, List.nil_append]
  · rfl

theorem dropSign_cons (item : Option Char) (s : Source) :
    dropSign (item :: s) = if item ∈ [some '+', some '-'] then s else item :: s := by
  unfold dropSign
  split <;> simp_all

theorem dropSign_append (ends : Ends t) (s : Source) : dropSign (s ++ t) = dropSign s ++ t := by
  cases s with
  | nil =>
      cases t with
      | nil => rfl
      | cons item t =>
          have other : item ∉ [some '+', some '-'] := by
            simp only [List.mem_cons, List.not_mem_nil, or_false]
            rintro (rfl | rfl)
            all_goals exact ends.head?_ne (by decide) rfl
          rw [List.nil_append, dropSign_cons, if_neg other]
          rfl
  | cons item s =>
      rw [List.cons_append, dropSign_cons, dropSign_cons]
      split
      · rfl
      · rfl

theorem takeDigits_of_not_digit (h : startsWithDigit t = false) : takeDigits t = ([], t) := by
  fun_cases takeDigits t with
  | case1 c rest d digit p => simp [startsWithDigit, digit] at h
  | case2 | case3 => rfl

theorem takeDigits_append (ends : Ends t) (s : Source) :
    takeDigits (s ++ t) = extend t (takeDigits s) := by
  induction s with
  | nil => exact takeDigits_of_not_digit (startsWithDigit_of_ends ends)
  | cons item s ih =>
      cases item with
      | none => rfl
      | some c =>
          rw [List.cons_append, takeDigits, takeDigits, ih]
          cases decimal? c with
          | none => rfl
          | some d => rfl

theorem skipExponent_cons (item : Option Char) (s : Source) :
    skipExponent (item :: s) =
      if item ∈ [some 'e', some 'E'] then
        if startsWithDigit (dropSign s) then .ok (dropDigits (dropSign s)) else .error .malformed
      else .ok (item :: s) := by
  unfold skipExponent
  split <;> simp_all

theorem skipFraction_cons (item : Option Char) (s : Source) :
    skipFraction (item :: s) =
      if item = some '.' then
        if startsWithDigit s then skipExponent (dropDigits s) else .error .malformed
      else skipExponent (item :: s) := by
  unfold skipFraction
  split <;> simp_all

theorem skipNumber_cons (item : Option Char) (s : Source) :
    skipNumber (item :: s) =
      if item = some '0' then if startsWithDigit s then .error .malformed else skipFraction s
      else if startsWithDigit (item :: s) then skipFraction (dropDigits s)
      else .error .malformed := by
  unfold skipNumber
  split
  · next h =>
      cases h
      rw [if_pos rfl]
  · next c rest other h =>
      cases h
      have notZero : some c ≠ some '0' := fun zero => other (Option.some.inj zero)
      rw [if_neg notZero]
      rfl
  · next more other =>
      cases item with
      | none => rfl
      | some c => exact absurd rfl (other c s)

theorem skipExponent_append (ends : Ends t) (s : Source) :
    skipExponent (s ++ t) = (skipExponent s).map (· ++ t) := by
  cases s with
  | nil => exact skipExponent_of_ends ends
  | cons item s =>
      rw [List.cons_append, skipExponent_cons, skipExponent_cons, dropSign_append ends,
        startsWithDigit_append ends, dropDigits_append ends]
      split
      · split
        · rfl
        · rfl
      · rfl

theorem skipFraction_of_ends (ends : Ends t) : skipFraction t = .ok t := by
  fun_cases skipFraction t with
  | case1 | case2 => exact absurd rfl (ends.head?_ne (by decide))
  | case3 => exact skipExponent_of_ends ends

theorem skipFraction_append (ends : Ends t) (s : Source) :
    skipFraction (s ++ t) = (skipFraction s).map (· ++ t) := by
  cases s with
  | nil => exact skipFraction_of_ends ends
  | cons item s =>
      rw [List.cons_append, skipFraction_cons, skipFraction_cons, startsWithDigit_append ends,
        dropDigits_append ends, ← List.cons_append, skipExponent_append ends,
        skipExponent_append ends]
      split
      · split
        · rfl
        · rfl
      · rfl

theorem skipNumber_append (ends : Ends t) (s : Source) :
    skipNumber (s ++ t) = (skipNumber s).map (· ++ t) := by
  cases s with
  | nil =>
      fun_cases skipNumber t with
      | case1 | case2 => exact absurd rfl (ends.head?_ne (by decide))
      | case3 c rest other digit =>
          cases digit.symm.trans (startsWithDigit_of_ends ends)
      | case4 | case5 => rfl
  | cons item s =>
      rw [List.cons_append, skipNumber_cons, skipNumber_cons, startsWithDigit_append ends,
        dropDigits_append ends, ← List.cons_append, skipFraction_append ends,
        skipFraction_append ends, startsWithDigit_append ends]
      split
      · split
        · rfl
        · rfl
      · split
        · rfl
        · rfl

/-- Without a mark before it there is no exponent. -/
theorem exponentFault_of_unmarked {m : Nat} {e : Int}
    (unmarked : ∀ c ∈ ['e', 'E'], s.head? ≠ some (some c)) :
    exponentFault m e s = exponentFault m e [] := by
  fun_cases exponentFault m e s with
  | case1 | case2 | case3 | case4 | case5 | case6 => exact absurd rfl (unmarked _ (by decide))
  | case7 => rfl

theorem exponentFault_mark {m : Nat} {e : Int} {c : Char} (mark : c ∈ ['e', 'E']) (s : Source) :
    exponentFault m e (some c :: s) =
      if dropSign s = [] then .truncated
      else if startsWithDigit (dropSign s) then
        let n : Int := exponentOf (takeDigits (dropSign s)).1
        exponentFault m (if s.head? = some (some '-') then e - n else e + n) []
      else .malformed := by
  simp only [List.mem_cons, List.not_mem_nil, or_false] at mark
  rcases mark with rfl | rfl
  all_goals
    unfold exponentFault
    simp only
    split
    · next nothing => rw [if_pos nothing]
    · next something => rw [if_neg something]

theorem exponentFault_append {m : Nat} {e : Int} (h : exponentFault m e s = .mismatched)
    (ends : Ends t) : exponentFault m e (s ++ t) = .mismatched := by
  have foreign : ∀ c ∈ ['e', 'E'], c ∉ Grammar.blanks ++ [',', ']', '\x7d'] := by
    simp [Grammar.blanks]
  have unmarked : ∀ c ∈ ['e', 'E'], t.head? ≠ some (some c) :=
    fun c mem => ends.head?_ne (foreign c mem)
  by_cases marked : ∃ c ∈ ['e', 'E'], s.head? = some (some c)
  · obtain ⟨c, mark, head⟩ := marked
    obtain ⟨s, rfl⟩ := List.head?_eq_some_iff.mp head
    rw [exponentFault_mark mark] at h
    rw [List.cons_append, exponentFault_mark mark, dropSign_append ends,
      startsWithDigit_append ends, takeDigits_append ends]
    split at h
    · cases h
    · next digits =>
        rw [if_neg (by simp [digits])]
        split at h
        · next digit =>
            have head : (s ++ t).head? = s.head? := by
              cases s with
              | nil => exact absurd rfl digits
              | cons item s => rfl
            rw [if_pos digit, head]
            exact h
        · cases h
  · have unmarked' : ∀ c ∈ ['e', 'E'], s.head? ≠ some (some c) := by
      intro c mem head
      exact marked ⟨c, mem, head⟩
    rw [exponentFault_of_unmarked unmarked'] at h
    rw [exponentFault_of_unmarked, h]
    cases s with
    | nil => exact unmarked
    | cons item s => exact unmarked'

theorem fractionFault_point {m : Nat} {e : Int} (more : s ≠ []) :
    fractionFault m e (some '.' :: s) =
      if startsWithDigit s then
        let q := significant (takeDigits s).1 m 0
        exponentFault q.1 (e - q.2) (takeDigits s).2
      else .malformed := by
  unfold fractionFault
  split
  · next only => exact absurd (List.tail_eq_of_cons_eq only) more
  · next h =>
      cases h
      rfl
  · next other => exact absurd rfl (other _)

theorem fractionFault_of_not_point {m : Nat} {e : Int} (other : s.head? ≠ some (some '.')) :
    fractionFault m e s = exponentFault m e s := by
  fun_cases fractionFault m e s with
  | case1 | case2 | case3 => exact absurd rfl other
  | case4 => rfl

theorem fractionFault_append {m : Nat} {e : Int} (h : fractionFault m e s = .mismatched)
    (ends : Ends t) : fractionFault m e (s ++ t) = .mismatched := by
  by_cases point : s.head? = some (some '.')
  · obtain ⟨s, rfl⟩ := List.head?_eq_some_iff.mp point
    cases s with
    | nil => cases h
    | cons item s =>
        rw [fractionFault_point (List.cons_ne_nil _ _)] at h
        rw [List.cons_append, List.cons_append, fractionFault_point (List.cons_ne_nil _ _),
          ← List.cons_append, startsWithDigit_append ends, takeDigits_append ends]
        split at h
        · next digit =>
            rw [if_pos digit]
            exact exponentFault_append h ends
        · cases h
  · rw [fractionFault_of_not_point point] at h
    rw [fractionFault_of_not_point]
    · exact exponentFault_append h ends
    · cases s with
      | nil => exact ends.head?_ne (by decide)
      | cons item s => exact point

theorem numberFault_of_digit (digit : startsWithDigit s = true)
    (other : s.head? ≠ some (some '0')) :
    numberFault s =
      let q := significant (takeDigits s).1 0 0
      fractionFault q.1 ((takeDigits s).1.length - q.2 : Nat) (takeDigits s).2 := by
  unfold numberFault
  split
  · cases digit
  · exact absurd rfl other
  · rw [if_pos digit]

theorem numberFault_append (h : numberFault s = .mismatched) (ends : Ends t) :
    numberFault (s ++ t) = .mismatched := by
  revert h
  fun_cases numberFault s with
  | case1 | case2 | case5 =>
      intro h
      cases h
  | case3 s only =>
      intro h
      rw [List.cons_append, numberFault, startsWithDigit_append ends, if_neg only]
      exact fractionFault_append h ends
  | case4 s more other digit p q =>
      intro h
      cases s with
      | nil => exact absurd rfl more
      | cons item s =>
          have notZero : (item :: s ++ t).head? ≠ some (some '0') := by
            intro zero
            exact other s (congrArg (· :: s) (Option.some.inj zero))
          rw [numberFault_of_digit ((startsWithDigit_append ends _).trans digit) notZero,
            takeDigits_append ends]
          exact fractionFault_append h ends

end Numbers

section Values

variable {s t : Source}

theorem skipWord_append {word : List Char} {r : Except Fault Source} (h : skipWord word s = r)
    (judged : Judged r) (t : Source) : skipWord word (s ++ t) = r.map (· ++ t) := by
  subst h
  fun_induction skipWord word s with
  | case1 s => rfl
  | case2 | case4 => cases judged
  | case3 c word s ih =>
      rw [List.cons_append, skipWord, if_pos rfl, ih judged]

theorem skipScalar_append {r : Except Fault Source} (h : skipScalar s = r) (judged : Judged r)
    (ends : Ends t) : skipScalar (s ++ t) = r.map (· ++ t) := by
  subst h
  revert judged
  fun_cases skipScalar s with
  | case1 rest =>
      intro judged
      exact skipString_append rfl judged t
  | case2 rest =>
      intro judged
      exact skipNumber_append ends rest
  | case3 c rest quote minus word begins =>
      intro judged
      rw [List.cons_append, skipScalar]
      · simp only [begins]
        exact skipWord_append rfl judged t
      · exact quote
      · exact minus
  | case4 c rest quote minus begins =>
      intro judged
      rw [List.cons_append, skipScalar]
      · simp only [begins]
        exact skipNumber_append ends (some c :: rest)
      · exact quote
      · exact minus
  | case5 =>
      intro judged
      cases judged

theorem skipColon_append {r : Except Fault Source} (h : skipColon s = r) (judged : Judged r)
    (t : Source) : skipColon (s ++ t) = r.map (· ++ t) := by
  subst h
  revert judged
  fun_cases skipColon s with
  | case1 | case3 =>
      intro judged
      cases judged
  | case2 rest colon =>
      intro judged
      simp only [skipColon, skipBlank_append colon]
      rfl

theorem skipName_append {r : Except Fault Source} (h : skipName s = r) (judged : Judged r)
    (t : Source) : skipName (s ++ t) = r.map (· ++ t) := by
  subst h
  revert judged
  fun_cases skipName s with
  | case1 | case4 =>
      intro judged
      cases judged
  | case2 rest quote f name =>
      intro judged
      simp only [skipName, skipBlank_append quote, skipString_append name judged t]
      rfl
  | case3 rest quote rest' name =>
      intro judged
      simp only [skipName, skipBlank_append quote, skipString_append name trivial t, Except.map]
      exact skipColon_append rfl judged t

theorem skip_append {place : Place} {frames : List Frame} {r : Except Fault Source}
    (h : skip place frames s = r) (judged : Judged r) (ends : Ends t) :
    skip place frames (s ++ t) = r.map (· ++ t) := by
  subst h
  fun_induction skip place frames s with
  | case1 s => exact skip_done _
  | case2 | case7 | case8 | case9 | case12 => cases judged
  | case3 s outer rest comma ih =>
      rw [skip_behind, skipBlank_append comma]
      exact ih judged
  | case4 s outer rest comma f name =>
      rw [skip_behind, skipBlank_append comma]
      simp only [skipName_append name judged t]
      rfl
  | case5 s outer rest comma rest' name ih =>
      rw [skip_behind, skipBlank_append comma]
      simp only [skipName_append name trivial t]
      exact ih judged
  | case6 s frame outer rest other close ih =>
      rw [skip_close (skipBlank_append close t)]
      exact ih judged
  | case10 s frames rest bracket rest' close ih =>
      rw [skip_before, skipBlank_append bracket]
      simp only [skipBlank_append close]
      exact ih judged
  | case11 s frames rest bracket more other ih =>
      obtain ⟨item, s', next, open_⟩ := exists_cons_of_open more other
      rw [skip_list (skipBlank_append bracket t) (skipBlank_append next t) open_]
      exact ih judged
  | case13 s frames rest brace rest' close ih =>
      rw [skip_before, skipBlank_append brace]
      simp only [skipBlank_append close]
      exact ih judged
  | case14 s frames rest brace f name more other =>
      obtain ⟨item, s', next, open_⟩ := exists_cons_of_open more other
      rw [skip_object (skipBlank_append brace t) (skipBlank_append next t) open_,
        skipName_append name judged t]
      rfl
  | case15 s frames rest brace rest' name more other ih =>
      obtain ⟨item, s', next, open_⟩ := exists_cons_of_open more other
      rw [skip_object (skipBlank_append brace t) (skipBlank_append next t) open_,
        skipName_append name trivial t]
      exact ih judged
  | case16 s frames item rest bracket brace begins f scalar =>
      rw [skip_scalar (skipBlank_append begins t) bracket brace, ← List.cons_append,
        skipScalar_append scalar judged ends]
      rfl
  | case17 s frames item rest bracket brace begins rest' scalar ih =>
      rw [skip_scalar (skipBlank_append begins t) bracket brace, ← List.cons_append,
        skipScalar_append scalar trivial ends]
      exact ih judged

theorem mismatch_append (h : mismatch s = .mismatched) (ends : Ends t) :
    mismatch (s ++ t) = .mismatched := by
  revert h
  fun_cases mismatch s with
  | case1 | case10 =>
      intro h
      cases h
  | case2 | case3 => exact fun _ => rfl
  | case4 rest f string =>
      rintro rfl
      rw [List.cons_append, mismatch, readString_append string rfl t]
      rfl
  | case5 rest p string =>
      intro h
      rw [List.cons_append, mismatch, readString_append string trivial t]
      rfl
  | case6 rest => exact fun h => numberFault_append h ends
  | case7 c rest bracket brace quote minus word begins f fault =>
      rintro rfl
      rw [List.cons_append, mismatch]
      · simp only [begins, skipWord_append fault rfl t]
        rfl
      all_goals assumption
  | case8 c rest bracket brace quote minus word begins rest' passed =>
      intro h
      rw [List.cons_append, mismatch]
      · simp only [begins, skipWord_append passed trivial t]
        rfl
      all_goals assumption
  | case9 c rest bracket brace quote minus begins =>
      intro h
      rw [List.cons_append, mismatch]
      · simp only [begins]
        exact numberFault_append h ends
      all_goals assumption

end Values

end Reminders.Json
