import Reminders.Json.Strings
import Reminders.Json.Value
import Reminders.Proofs.Text.LetterCase

/-!
# The grammar of JSON

What a JSON text denotes, told by the rules of the format and without any reader. `Denotes` relates
a text to the tree that it spells; its parts relate the beginning of a text to what is spelled there
and to the rest that follows. All of the format is here: blanks between tokens, numbers, every
escape in strings, and lists and objects of any depth.

Strings are decoded as the grammar says (`readString_of_quoted`), so a string tells where it ends
and no other string can be read off the same text (`Quoted.unique`). What is written for a string
follows the grammar too (`quoted_flatMap_escape`).
-/

namespace Reminders.Json

/-- What a JSON text spells. A number is kept as it is written. -/
inductive Tree where
  | null
  | flag (b : Bool)
  | number (numeral : List Char)
  | text (s : String)
  | list (elements : List Tree)
  | object (members : List (String × Tree))

namespace Grammar

open Text (SpellsHex hexNumber?_eq_some_iff)

/-- The characters that may stand around tokens. -/
def blanks : List Char := [' ', '\t', '\n', '\r']

/-- A text begins with blanks, perhaps with none, before the rest of it. -/
inductive Blank : List Char → List Char → Prop where
  | none {s : List Char} : Blank s s
  | cons {c : Char} {s rest : List Char} (blank : c ∈ blanks) (more : Blank s rest) :
      Blank (c :: s) rest

/-- A character that is no blank ends them. -/
theorem blank_cons_iff {c : Char} {s rest : List Char} (solid : c ∉ blanks) :
    Blank (c :: s) rest ↔ rest = c :: s := by
  constructor
  · intro h
    cases h with
    | none => rfl
    | cons blank => exact absurd blank solid
  · rintro rfl
    exact .none

/-- The letters of escapes, and what they stand for. -/
def shortEscapes : List (Char × Char) :=
  [('"', '"'), ('\\', '\\'), ('/', '/'), ('b', '\x08'), ('f', '\x0c'), ('n', '\n'), ('r', '\r'),
    ('t', '\t')]

/-- Four hexadecimal digits spell a number. -/
structure Unit (ds : List Char) (n : Nat) : Prop where
  length : ds.length = 4
  spells : SpellsHex ds n

/-- What stands behind the opening quote of a string: its characters and the closing quote. A
character above the basic plane is escaped by the two halves of its surrogate pair. -/
inductive Quoted : List Char → List Char → List Char → Prop where
  | close {rest : List Char} : Quoted ('"' :: rest) [] rest
  | plain {c : Char} {s cs rest : List Char} (quote : c ≠ '"') (backslash : c ≠ '\\')
      (visible : 0x20 ≤ c.toNat) (more : Quoted s cs rest) : Quoted (c :: s) (c :: cs) rest
  | short {c d : Char} {s cs rest : List Char} (escape : (c, d) ∈ shortEscapes)
      (more : Quoted s cs rest) : Quoted ('\\' :: c :: s) (d :: cs) rest
  | unit {c : Char} {ds s cs rest : List Char} (digits : Unit ds c.toNat)
      (more : Quoted s cs rest) : Quoted ('\\' :: 'u' :: (ds ++ s)) (c :: cs) rest
  | pair {c : Char} {high low : Nat} {ds ds' s cs rest : List Char} (first : Unit ds high)
      (second : Unit ds' low) (isHigh : 0xD800 ≤ high ∧ high ≤ 0xDBFF)
      (isLow : 0xDC00 ≤ low ∧ low ≤ 0xDFFF)
      (value : c.toNat = 0x10000 + 0x400 * (high - 0xD800) + (low - 0xDC00))
      (more : Quoted s cs rest) :
      Quoted ('\\' :: 'u' :: (ds ++ '\\' :: 'u' :: (ds' ++ s))) (c :: cs) rest

/-- Digits, at least one. -/
def Digits (ds : List Char) : Prop := ds ≠ [] ∧ ∀ c ∈ ds, c.isDigit = true

/-- A number as it is written: a whole part without needless zeros, which may be negative, and then
perhaps a fraction and an exponent. -/
inductive Numeral : List Char → Prop where
  | mk {sign whole fraction exponent : List Char} (sign_mem : sign ∈ [[], ['-']])
      (digits : Digits whole) (short : whole.head? = some '0' → whole = ['0'])
      (hasFraction : fraction = [] ∨ ∃ ds, Digits ds ∧ fraction = '.' :: ds)
      (hasExponent : exponent = [] ∨ ∃ e ∈ ['e', 'E'], ∃ sign ∈ [[], ['+'], ['-']], ∃ ds,
        Digits ds ∧ exponent = e :: sign ++ ds) :
      Numeral (sign ++ whole ++ fraction ++ exponent)

inductive Name : List Char → String → List Char → Prop where
  | mk {s s₁ s₂ rest cs : List Char} (before : Blank s ('"' :: s₁)) (quoted : Quoted s₁ cs s₂)
      (after : Blank s₂ (':' :: rest)) : Name s (String.ofList cs) rest

mutual

/-- A text begins with a value. -/
inductive Spells : List Char → Tree → List Char → Prop where
  | null {rest : List Char} : Spells ('n' :: 'u' :: 'l' :: 'l' :: rest) .null rest
  | true {rest : List Char} : Spells ('t' :: 'r' :: 'u' :: 'e' :: rest) (.flag true) rest
  | false {rest : List Char} : Spells ('f' :: 'a' :: 'l' :: 's' :: 'e' :: rest) (.flag false) rest
  | number {s cs rest : List Char} (numeral : Numeral cs) (split : s = cs ++ rest) :
      Spells s (.number cs) rest
  | text {s cs rest : List Char} (quoted : Quoted s cs rest) :
      Spells ('"' :: s) (.text (String.ofList cs)) rest
  | noElements {s rest : List Char} (close : Blank s (']' :: rest)) :
      Spells ('[' :: s) (.list []) rest
  | list {s rest : List Char} {ts : List Tree} (elements : Elements s ts rest) :
      Spells ('[' :: s) (.list ts) rest
  | noMembers {s rest : List Char} (close : Blank s ('\x7d' :: rest)) :
      Spells ('\x7b' :: s) (.object []) rest
  | object {s rest : List Char} {ms : List (String × Tree)} (members : Members s ms rest) :
      Spells ('\x7b' :: s) (.object ms) rest

/-- What stands behind the opening bracket of a list that is not empty. -/
inductive Elements : List Char → List Tree → List Char → Prop where
  | last {s s₁ s₂ rest : List Char} {t : Tree} (before : Blank s s₁) (element : Spells s₁ t s₂)
      (after : Blank s₂ (']' :: rest)) : Elements s [t] rest
  | cons {s s₁ s₂ s₃ rest : List Char} {t : Tree} {ts : List Tree} (before : Blank s s₁)
      (element : Spells s₁ t s₂) (after : Blank s₂ (',' :: s₃)) (more : Elements s₃ ts rest) :
      Elements s (t :: ts) rest

/-- What stands behind the opening brace of an object that is not empty. -/
inductive Members : List Char → List (String × Tree) → List Char → Prop where
  | last {s s₁ s₂ s₃ rest : List Char} {name : String} {t : Tree} (named : Name s name s₁)
      (before : Blank s₁ s₂) (value : Spells s₂ t s₃) (after : Blank s₃ ('\x7d' :: rest)) :
      Members s [(name, t)] rest
  | cons {s s₁ s₂ s₃ s₄ rest : List Char} {name : String} {t : Tree} {ms : List (String × Tree)}
      (named : Name s name s₁) (before : Blank s₁ s₂) (value : Spells s₂ t s₃)
      (after : Blank s₃ (',' :: s₄)) (more : Members s₄ ms rest) :
      Members s ((name, t) :: ms) rest

end

/-- A text is a JSON text that spells a tree. -/
def Denotes (text : List Char) (t : Tree) : Prop :=
  ∃ s rest, Blank text s ∧ Spells s t rest ∧ Blank rest []

section Strings

variable {c d : Char} {s s' cs cs' ds rest rest' read : List Char} {n : Nat}

theorem readUnit_of_unit (h : Unit ds n) (rest : Source) :
    readUnit (ds.map some ++ rest) = .ok (n, rest) := by
  obtain ⟨length, spells⟩ := h
  have number := hexNumber?_eq_some_iff.mpr spells
  match ds, length with
  | [a, b, c, d], _ =>
      simp only [List.map_cons, List.map_nil, List.cons_append, List.nil_append, readUnit, number]

/-- A character is no half of a surrogate pair, so its number is read as the character. -/
theorem readEscape_of_unit {u rest : Source} (unit : readUnit u = .ok (c.toNat, rest)) :
    readEscape (some 'u' :: u) = .ok (c, rest) := by
  have valid : c.toNat < 0xD800 ∨ 0xDFFF < c.toNat := by
    rcases c.valid with low | high
    · exact .inl low
    · exact .inr high.1
  simp only [readEscape, unit]
  rw [if_neg (by omega), if_neg (by omega), Char.ofNat_toNat]

/-- The two halves of a surrogate pair are read as the character above the basic plane. -/
theorem readEscape_of_pair {high low : Nat} {u u' rest : Source}
    (first : readUnit u = .ok (high, some '\\' :: some 'u' :: u'))
    (second : readUnit u' = .ok (low, rest)) (isHigh : 0xD800 ≤ high ∧ high ≤ 0xDBFF)
    (isLow : 0xDC00 ≤ low ∧ low ≤ 0xDFFF)
    (value : c.toNat = 0x10000 + 0x400 * (high - 0xD800) + (low - 0xDC00)) :
    readEscape (some 'u' :: u) = .ok (c, rest) := by
  simp only [readEscape, first]
  rw [if_neg (by omega), if_pos isHigh]
  simp only [readLowHalf, second]
  rw [if_pos isLow, ← value, Char.ofNat_toNat]

theorem readEscape_of_short (escape : (c, d) ∈ shortEscapes) (rest : Source) :
    readEscape (some c :: rest) = .ok (d, rest) := by
  simp only [shortEscapes, List.mem_cons, Prod.mk.injEq, List.not_mem_nil, or_false] at escape
  rcases escape with h | h | h | h | h | h | h | h
  all_goals
    obtain ⟨rfl, rfl⟩ := h
    rfl

/-- A string is decoded as the grammar says. -/
theorem readString_of_quoted (h : Quoted s cs rest) (read : List Char) :
    readString read true (s.map some) =
      .ok (String.ofList (read.reverse ++ cs), rest.map some) := by
  induction h generalizing read with
  | close => rw [List.map_cons, readString_quote, List.append_nil]
  | plain quote backslash visible more ih =>
      rw [List.map_cons, readString_plain quote backslash (by omega), ih, List.reverse_cons,
        List.append_assoc]
      rfl
  | short escape more ih =>
      rw [List.map_cons, List.map_cons, readString_escape (readEscape_of_short escape _), ih,
        List.reverse_cons, List.append_assoc]
      rfl
  | unit digits more ih =>
      rw [List.map_cons, List.map_cons, List.map_append,
        readString_escape (readEscape_of_unit (readUnit_of_unit digits _)), ih,
        List.reverse_cons, List.append_assoc]
      rfl
  | pair first second isHigh isLow value more ih =>
      have pair (rest : Source) := readEscape_of_pair (readUnit_of_unit first _)
        (readUnit_of_unit second rest) isHigh isLow value
      rw [List.map_cons, List.map_cons, List.map_append, List.map_cons, List.map_cons,
        List.map_append, readString_escape (pair _), ih, List.reverse_cons, List.append_assoc]
      rfl

/-- A string tells where it ends, and what it is. -/
theorem Quoted.unique (h : Quoted s cs rest) (h' : Quoted s cs' rest') :
    cs = cs' ∧ rest = rest' := by
  have same := (readString_of_quoted h []).symm.trans (readString_of_quoted h' [])
  simp only [List.reverse_nil, List.nil_append, Except.ok.injEq, Prod.mk.injEq,
    String.ofList_inj] at same
  exact ⟨same.1, (List.map_inj_right fun _ _ => Option.some.inj).mp same.2⟩

theorem unit_fixedDigits (h : n < 65536) : Unit (Text.fixedDigits 16 4 n) n := by
  have number := Text.hexNumber?_fixedDigits 4 n 0
  have value : Nat.pow 16 4 * 0 + n % Nat.pow 16 4 = n := by
    rw [Nat.mul_zero, Nat.zero_add]
    exact Nat.mod_eq_of_lt h
  rw [value] at number
  exact ⟨Text.length_fixedDigits 16 4 n, hexNumber?_eq_some_iff.mp number⟩

/-- A character is written by one of the rules for strings. -/
theorem Quoted.escaped (more : Quoted s cs rest) (c : Char) :
    Quoted (escape c ++ s) (c :: cs) rest := by
  unfold escape
  split
  case h_1 | h_2 | h_3 | h_4 | h_5 | h_6 | h_7 => exact .short (by decide) more
  case h_8 quote backslash _ _ _ _ _ =>
    split
    · next control => exact .unit (unit_fixedDigits (by omega)) more
    · next visible => exact .plain quote backslash (by omega) more

theorem quoted_flatMap_escape (cs rest : List Char) :
    Quoted (cs.flatMap escape ++ '"' :: rest) cs rest := by
  induction cs with
  | nil => exact .close
  | cons c cs ih =>
      rw [List.flatMap_cons, List.append_assoc]
      exact ih.escaped c

end Strings

section Beginnings

variable {c : Char} {s rest cs : List Char} {t : Tree}

/-- A number begins with a sign or a digit. -/
theorem Numeral.head_of_append (h : Numeral cs) (split : c :: s = cs ++ rest) :
    c = '-' ∨ c.isDigit = true := by
  obtain ⟨sign_mem, ⟨nonempty, digits⟩, -, -, -⟩ := h
  obtain ⟨d, ds, rfl⟩ := List.exists_cons_of_ne_nil nonempty
  simp only [List.mem_cons, List.not_mem_nil, or_false] at sign_mem
  rcases sign_mem with rfl | rfl
  · cases split
    exact .inr (digits _ List.mem_cons_self)
  · cases split
    exact .inl rfl

theorem spells_true_iff :
    Spells ('t' :: 'r' :: 'u' :: 'e' :: s) t rest ↔ t = .flag true ∧ rest = s := by
  constructor
  · intro h
    cases h with
    | true => exact ⟨rfl, rfl⟩
    | number numeral split => exact absurd (numeral.head_of_append split) (by decide)
  · rintro ⟨rfl, rfl⟩
    exact .true

theorem spells_false_iff :
    Spells ('f' :: 'a' :: 'l' :: 's' :: 'e' :: s) t rest ↔ t = .flag false ∧ rest = s := by
  constructor
  · intro h
    cases h with
    | false => exact ⟨rfl, rfl⟩
    | number numeral split => exact absurd (numeral.head_of_append split) (by decide)
  · rintro ⟨rfl, rfl⟩
    exact .false

theorem spells_quote_iff :
    Spells ('"' :: s) t rest ↔ ∃ cs, t = .text (String.ofList cs) ∧ Quoted s cs rest := by
  constructor
  · intro h
    cases h with
    | text quoted => exact ⟨_, rfl, quoted⟩
    | number numeral split => exact absurd (numeral.head_of_append split) (by decide)
  · rintro ⟨cs, rfl, quoted⟩
    exact .text quoted

theorem spells_bracket_iff :
    Spells ('[' :: s) t rest ↔
      t = .list [] ∧ Blank s (']' :: rest) ∨ ∃ ts, t = .list ts ∧ Elements s ts rest := by
  constructor
  · intro h
    cases h with
    | noElements close => exact .inl ⟨rfl, close⟩
    | list elements => exact .inr ⟨_, rfl, elements⟩
    | number numeral split => exact absurd (numeral.head_of_append split) (by decide)
  · rintro (⟨rfl, close⟩ | ⟨ts, rfl, elements⟩)
    · exact .noElements close
    · exact .list elements

theorem spells_brace_iff :
    Spells ('\x7b' :: s) t rest ↔
      t = .object [] ∧ Blank s ('\x7d' :: rest) ∨ ∃ ms, t = .object ms ∧ Members s ms rest := by
  constructor
  · intro h
    cases h with
    | noMembers close => exact .inl ⟨rfl, close⟩
    | object members => exact .inr ⟨_, rfl, members⟩
    | number numeral split => exact absurd (numeral.head_of_append split) (by decide)
  · rintro (⟨rfl, close⟩ | ⟨ms, rfl, members⟩)
    · exact .noMembers close
    · exact .object members

/-- No value begins with the character that closes a list. -/
theorem not_spells_close : ¬Spells (']' :: s) t rest := by
  intro h
  cases h with
  | number numeral split => exact absurd (numeral.head_of_append split) (by decide)

end Beginnings

end Grammar

end Reminders.Json
