import Reminders.Json.Value
import Reminders.Proofs.Json.Grammar

/-!
# Rendered values

The compact text of a value is a JSON text, and it spells that value and no other
(`denotes_render_iff`). The text of each part is followed by what cannot belong to it, so the way in
which a rendered value is taken apart by the grammar is settled from character to character.
-/

namespace Reminders.Json

open Grammar

namespace Value

mutual

/-- The tree of a value. -/
def tree : Value → Tree
  | flag b => .flag b
  | text s => .text s
  | list values => .list (trees values)
  | object ms => .object (memberTrees ms)

def trees : List Value → List Tree
  | [] => []
  | v :: vs => v.tree :: trees vs

/-- The members of an object, with their values as trees. -/
def memberTrees : List (String × Value) → List (String × Tree)
  | [] => []
  | (name, v) :: ms => (name, v.tree) :: memberTrees ms

end

/-- A value begins with a character that is neither a blank nor closes a list. -/
theorem exists_chars_eq_cons (v : Value) :
    ∃ c cs, v.chars = c :: cs ∧ c ∉ blanks ∧ c ≠ ']' := by
  match v with
  | flag true | flag false | text _ | list _ | object _ => exact ⟨_, _, rfl, by decide, by decide⟩

theorem blank_chars_iff {v : Value} {s rest : List Char} :
    Blank (v.chars ++ s) rest ↔ rest = v.chars ++ s := by
  obtain ⟨c, cs, begins, solid, -⟩ := v.exists_chars_eq_cons
  rw [begins, List.cons_append, blank_cons_iff solid]

theorem quoted_string_iff {x : String} {s rest cs : List Char} :
    Quoted (x.toList.flatMap escape ++ '"' :: s) cs rest ↔ String.ofList cs = x ∧ rest = s := by
  constructor
  · intro h
    obtain ⟨rfl, rfl⟩ := h.unique (quoted_flatMap_escape x.toList s)
    exact ⟨String.ofList_toList, rfl⟩
  · rintro ⟨rfl, rfl⟩
    rw [String.toList_ofList]
    exact quoted_flatMap_escape cs rest

/-- A string behind its opening quote, before what follows it. -/
theorem string_append (x : String) (s : List Char) :
    string x ++ s = '"' :: (x.toList.flatMap escape ++ '"' :: s) := by
  rw [string, List.cons_append, List.cons_append, List.append_assoc, List.singleton_append]

theorem spells_string_iff {x : String} {s rest : List Char} {t : Tree} :
    Spells (string x ++ s) t rest ↔ t = .text x ∧ rest = s := by
  rw [string_append, spells_quote_iff]
  simp only [quoted_string_iff]
  constructor
  · rintro ⟨cs, rfl, rfl, rfl⟩
    exact ⟨rfl, rfl⟩
  · rintro ⟨rfl, rfl⟩
    exact ⟨x.toList, by rw [String.ofList_toList], String.ofList_toList, rfl⟩

theorem name_string_iff {x name : String} {s rest : List Char} :
    Name (string x ++ ':' :: s) name rest ↔ name = x ∧ rest = s := by
  rw [string_append]
  constructor
  · intro h
    obtain ⟨before, quoted, after⟩ := h
    cases (blank_cons_iff (by decide)).mp before
    obtain ⟨rfl, rfl⟩ := quoted_string_iff.mp quoted
    cases (blank_cons_iff (by decide)).mp after
    exact ⟨rfl, rfl⟩
  · rintro ⟨rfl, rfl⟩
    have named := Name.mk .none (quoted_flatMap_escape name.toList (':' :: rest)) .none
    rwa [String.ofList_toList] at named

/-- A value is all that can be read where it is written. -/
structure ReadsBack (v : Value) : Prop where
  spells_iff : ∀ {s rest : List Char} {t : Tree},
    Spells (v.chars ++ s) t rest ↔ t = v.tree ∧ rest = s

section ReadsBack

variable {v : Value} {name : String} {s rest : List Char} {ts : List Tree}
variable {ms : List (String × Tree)} (reads : v.ReadsBack)

include reads

/-- It is read where the grammar allows blanks, too. -/
theorem ReadsBack.eq_of_blank {s₁ s₂ : List Char} {t : Tree} (before : Blank (v.chars ++ s) s₁)
    (value : Spells s₁ t s₂) : t = v.tree ∧ s₂ = s := by
  rw [blank_chars_iff.mp before] at value
  exact reads.spells_iff.mp value

theorem ReadsBack.elements_last_iff :
    Elements (v.chars ++ ']' :: s) ts rest ↔ ts = [v.tree] ∧ rest = s := by
  constructor
  · intro h
    cases h with
    | last before element after =>
        obtain ⟨rfl, rfl⟩ := reads.eq_of_blank before element
        cases (blank_cons_iff (by decide)).mp after
        exact ⟨rfl, rfl⟩
    | cons before element after more =>
        obtain ⟨rfl, rfl⟩ := reads.eq_of_blank before element
        cases (blank_cons_iff (by decide)).mp after
  · rintro ⟨rfl, rfl⟩
    exact .last .none (reads.spells_iff.mpr ⟨rfl, rfl⟩) .none

theorem ReadsBack.elements_cons_iff :
    Elements (v.chars ++ ',' :: s) ts rest ↔ ∃ ts', ts = v.tree :: ts' ∧ Elements s ts' rest := by
  constructor
  · intro h
    cases h with
    | last before element after =>
        obtain ⟨rfl, rfl⟩ := reads.eq_of_blank before element
        cases (blank_cons_iff (by decide)).mp after
    | cons before element after more =>
        obtain ⟨rfl, rfl⟩ := reads.eq_of_blank before element
        cases (blank_cons_iff (by decide)).mp after
        exact ⟨_, rfl, more⟩
  · rintro ⟨ts', rfl, more⟩
    exact .cons .none (reads.spells_iff.mpr ⟨rfl, rfl⟩) .none more

theorem ReadsBack.members_last_iff :
    Members (string name ++ ':' :: (v.chars ++ '\x7d' :: s)) ms rest ↔
      ms = [(name, v.tree)] ∧ rest = s := by
  constructor
  · intro h
    cases h with
    | last named before value after =>
        obtain ⟨rfl, rfl⟩ := name_string_iff.mp named
        obtain ⟨rfl, rfl⟩ := reads.eq_of_blank before value
        cases (blank_cons_iff (by decide)).mp after
        exact ⟨rfl, rfl⟩
    | cons named before value after more =>
        obtain ⟨rfl, rfl⟩ := name_string_iff.mp named
        obtain ⟨rfl, rfl⟩ := reads.eq_of_blank before value
        cases (blank_cons_iff (by decide)).mp after
  · rintro ⟨rfl, rfl⟩
    exact .last (name_string_iff.mpr ⟨rfl, rfl⟩) .none (reads.spells_iff.mpr ⟨rfl, rfl⟩) .none

theorem ReadsBack.members_cons_iff :
    Members (string name ++ ':' :: (v.chars ++ ',' :: s)) ms rest ↔
      ∃ ms', ms = (name, v.tree) :: ms' ∧ Members s ms' rest := by
  constructor
  · intro h
    cases h with
    | last named before value after =>
        obtain ⟨rfl, rfl⟩ := name_string_iff.mp named
        obtain ⟨rfl, rfl⟩ := reads.eq_of_blank before value
        cases (blank_cons_iff (by decide)).mp after
    | cons named before value after more =>
        obtain ⟨rfl, rfl⟩ := name_string_iff.mp named
        obtain ⟨rfl, rfl⟩ := reads.eq_of_blank before value
        cases (blank_cons_iff (by decide)).mp after
        exact ⟨_, rfl, more⟩
  · rintro ⟨ms', rfl, more⟩
    exact .cons (name_string_iff.mpr ⟨rfl, rfl⟩) .none (reads.spells_iff.mpr ⟨rfl, rfl⟩) .none more

end ReadsBack

/-- The elements of a list begin with the first of them. -/
theorem exists_elements_eq (v : Value) (vs : List Value) :
    ∃ cs, elements (v :: vs) = v.chars ++ cs := by
  cases vs with
  | nil => exact ⟨[], (List.append_nil _).symm⟩
  | cons w vs => exact ⟨',' :: elements (w :: vs), rfl⟩

theorem exists_members_eq (m : String × Value) (ms : List (String × Value)) :
    ∃ cs, members (m :: ms) = '"' :: cs := by
  cases ms with
  | nil => exact ⟨_, rfl⟩
  | cons m' ms => exact ⟨_, rfl⟩

/-- A list that has elements is not closed at once. -/
theorem not_blank_elements {v : Value} {vs : List Value} {s rest : List Char} :
    ¬Blank (elements (v :: vs) ++ s) (']' :: rest) := by
  obtain ⟨cs, begins⟩ := exists_elements_eq v vs
  obtain ⟨c, cs', head, -, open_⟩ := v.exists_chars_eq_cons
  rw [begins, List.append_assoc, blank_chars_iff, head]
  intro same
  exact open_ (List.cons.inj same).1.symm

theorem not_blank_members {m : String × Value} {ms : List (String × Value)}
    {s rest : List Char} : ¬Blank (members (m :: ms) ++ s) ('\x7d' :: rest) := by
  obtain ⟨cs, begins⟩ := exists_members_eq m ms
  rw [begins, List.cons_append, blank_cons_iff (by decide)]
  intro same
  exact absurd (List.cons.inj same).1 (by decide)

/-- Nothing that is read off a text that closes a list at once is an element. -/
theorem not_elements_close {s rest : List Char} {ts : List Tree} :
    ¬Elements (']' :: s) ts rest := by
  intro h
  cases h with
  | last before element | cons before element =>
      cases (blank_cons_iff (by decide)).mp before
      exact not_spells_close element

theorem not_members_close {s rest : List Char} {ms : List (String × Tree)} :
    ¬Members ('\x7d' :: s) ms rest := by
  intro h
  cases h with
  | last named | cons named =>
      obtain ⟨before, -, -⟩ := named
      cases (blank_cons_iff (by decide)).mp before

theorem elements_iff {v : Value} {vs : List Value} (h : ∀ w ∈ v :: vs, w.ReadsBack)
    {s rest : List Char} {ts : List Tree} :
    Elements (elements (v :: vs) ++ ']' :: s) ts rest ↔ ts = trees (v :: vs) ∧ rest = s := by
  obtain ⟨reads, others⟩ := List.forall_mem_cons.mp h
  induction vs generalizing v ts with
  | nil => exact reads.elements_last_iff
  | cons w vs ih =>
      obtain ⟨reads', others'⟩ := List.forall_mem_cons.mp others
      have first : elements (v :: w :: vs) ++ ']' :: s =
          v.chars ++ ',' :: (elements (w :: vs) ++ ']' :: s) := List.append_assoc ..
      rw [first, reads.elements_cons_iff]
      simp only [ih others reads' others']
      constructor
      · rintro ⟨ts', rfl, rfl, rfl⟩
        exact ⟨rfl, rfl⟩
      · rintro ⟨rfl, rfl⟩
        exact ⟨_, rfl, rfl, rfl⟩

theorem members_iff {m : String × Value} {ms : List (String × Value)}
    (h : ∀ m' ∈ m :: ms, m'.2.ReadsBack) {s rest : List Char} {ts : List (String × Tree)} :
    Members (members (m :: ms) ++ '\x7d' :: s) ts rest ↔
      ts = memberTrees (m :: ms) ∧ rest = s := by
  obtain ⟨reads, others⟩ := List.forall_mem_cons.mp h
  induction ms generalizing m ts with
  | nil =>
      have only : members [m] ++ '\x7d' :: s = string m.1 ++ ':' :: (m.2.chars ++ '\x7d' :: s) :=
        List.append_assoc ..
      rw [only]
      exact reads.members_last_iff
  | cons m' ms ih =>
      obtain ⟨reads', others'⟩ := List.forall_mem_cons.mp others
      have first : members (m :: m' :: ms) ++ '\x7d' :: s =
          string m.1 ++ ':' :: (m.2.chars ++ ',' :: (members (m' :: ms) ++ '\x7d' :: s)) := by
        simp [members]
      rw [first, reads.members_cons_iff]
      simp only [ih others reads' others']
      constructor
      · rintro ⟨ts', rfl, rfl, rfl⟩
        exact ⟨rfl, rfl⟩
      · rintro ⟨rfl, rfl⟩
        exact ⟨_, rfl, rfl, rfl⟩

theorem readsBack_list {values : List Value} (h : ∀ v ∈ values, v.ReadsBack) :
    (list values).ReadsBack := by
  constructor
  intro s rest t
  have bracket : (list values).chars ++ s = '[' :: (elements values ++ ']' :: s) := by
    simp [chars]
  rw [bracket, spells_bracket_iff]
  cases values with
  | nil =>
      rw [elements, List.nil_append, blank_cons_iff (by decide)]
      simp only [not_elements_close, and_false, exists_false, or_false, List.cons.injEq, true_and]
      rfl
  | cons v vs =>
      simp only [not_blank_elements, and_false, false_or, elements_iff h]
      constructor
      · rintro ⟨ts, rfl, rfl, rfl⟩
        exact ⟨rfl, rfl⟩
      · rintro ⟨rfl, rfl⟩
        exact ⟨_, rfl, rfl, rfl⟩

theorem readsBack_object {ms : List (String × Value)} (h : ∀ m ∈ ms, m.2.ReadsBack) :
    (object ms).ReadsBack := by
  constructor
  intro s rest t
  have brace : (object ms).chars ++ s = '\x7b' :: (members ms ++ '\x7d' :: s) := by
    simp [chars]
  rw [brace, spells_brace_iff]
  cases ms with
  | nil =>
      rw [members, List.nil_append, blank_cons_iff (by decide)]
      simp only [not_members_close, and_false, exists_false, or_false, List.cons.injEq, true_and]
      rfl
  | cons m ms =>
      simp only [not_blank_members, and_false, false_or, members_iff h]
      constructor
      · rintro ⟨ts, rfl, rfl, rfl⟩
        exact ⟨rfl, rfl⟩
      · rintro ⟨rfl, rfl⟩
        exact ⟨_, rfl, rfl, rfl⟩

/-- By recursion on the value, its text is read as it and as nothing else. -/
theorem readsBack (v : Value) : v.ReadsBack := by
  match v with
  | flag true => exact ⟨spells_true_iff⟩
  | flag false => exact ⟨spells_false_iff⟩
  | text _ => exact ⟨spells_string_iff⟩
  | list values => exact readsBack_list fun v mem => readsBack v
  | object ms => exact readsBack_object fun m mem => readsBack m.2
termination_by sizeOf v
decreasing_by
  · have := List.sizeOf_lt_of_mem mem
    simp only [list.sizeOf_spec]
    omega
  · have := List.sizeOf_lt_of_mem mem
    have part : sizeOf m.2 < sizeOf m := by
      cases m
      simp only [Prod.mk.sizeOf_spec]
      omega
    simp only [object.sizeOf_spec]
    omega

/-- The text of a value is a JSON text, and the tree of the value is the only one that it spells. -/
theorem denotes_render_iff {v : Value} {t : Tree} : Denotes v.render.toList t ↔ t = v.tree := by
  rw [render, String.toList_ofList]
  constructor
  · rintro ⟨s, rest, before, spells, after⟩
    rw [← List.append_nil v.chars] at before
    cases blank_chars_iff.mp before
    exact (v.readsBack.spells_iff.mp spells).1
  · rintro rfl
    refine ⟨v.chars, [], .none, ?_, .none⟩
    have spells := v.readsBack.spells_iff (s := []).mpr ⟨rfl, rfl⟩
    rwa [List.append_nil] at spells

end Value

end Reminders.Json
