import Mathlib.Data.List.Basic
import Reminders.Identity
import Reminders.Proofs.Text.LetterCase

/-!
# Spellings of a UUID

A UUID has four forms: its digits, the digits in groups, the groups in braces, and the groups behind
`urn:uuid:`. A text is read as a UUID exactly if it is one of the four when its letters are made
small (`parse?_eq_some_iff`), so what is read depends on the value that is spelled and not on its
spelling.
-/

namespace Reminders

open Text (SpellsHex hexNumber?_eq_some_iff fixedDigits)

namespace Text

/-- Characters below and above the letters have no other case. -/
theorem toLower_eq_iff {c d : Char} (h : d.toNat < 65 ∨ 122 < d.toNat) : c.toLower = d ↔ c = d := by
  rw [← Char.toNat_inj, ← Char.toNat_inj, toNat_toLower]
  grind

end Text

namespace Uuid

variable {cs : List Char} {u : Uuid}

/-- The written forms of a UUID in small letters. -/
def forms (u : Uuid) : List (List Char) :=
  [u.digits, u.chars, '\x7b' :: u.chars ++ ['\x7d'], scheme ++ u.chars]

theorem ofDigits?_eq_some_iff : ofDigits? cs = some u ↔ cs.map Char.toLower = u.digits := by
  have width : u.bits.toNat < .pow 16 32 := u.bits.isLt
  unfold ofDigits?
  split
  · next length =>
      rw [Option.map_eq_some_iff]
      simp only [hexNumber?_eq_some_iff]
      constructor
      · rintro ⟨n, ⟨digits, fits⟩, rfl⟩
        rw [length] at digits fits
        rw [digits, Uuid.digits, BitVec.toNat_ofNat, Nat.mod_eq_of_lt fits]
      · intro digits
        refine ⟨u.bits.toNat, ⟨?_, ?_⟩, ?_⟩
        · rw [length]
          exact digits
        · rw [length]
          exact width
        · rw [BitVec.ofNat_toNat, BitVec.setWidth_eq]
  · next other =>
      constructor
      · intro read
        cases read
      · intro digits
        have length := congrArg List.length digits
        rw [List.length_map, length_digits] at length
        exact absurd length other

/-- A text without the places where the hyphens of groups stand. -/
def ungrouped (cs : List Char) : List Char :=
  cs.take 8 ++ (cs.drop 9).take 4 ++ (cs.drop 14).take 4 ++ (cs.drop 19).take 4 ++ cs.drop 24

/-- A text has hyphens where those of groups stand. -/
def IsGrouped (cs : List Char) : Prop :=
  cs.length = 36 ∧ ∀ i ∈ [8, 13, 18, 23], cs[i]? = some '-'

theorem isGrouped_grouped {ds : List Char} (h : ds.length = 32) : IsGrouped (grouped ds) := by
  match ds, h with
  | [a0, a1, a2, a3, a4, a5, a6, a7, a8, a9, b0, b1, b2, b3, b4, b5, b6, b7, b8, b9, c0, c1, c2,
      c3, c4, c5, c6, c7, c8, c9, d0, d1], _ =>
      simp [IsGrouped, grouped]

theorem ungrouped_grouped {ds : List Char} (h : ds.length = 32) : ungrouped (grouped ds) = ds := by
  match ds, h with
  | [a0, a1, a2, a3, a4, a5, a6, a7, a8, a9, b0, b1, b2, b3, b4, b5, b6, b7, b8, b9, c0, c1, c2,
      c3, c4, c5, c6, c7, c8, c9, d0, d1], _ =>
      rfl

theorem grouped_append {a b c d : List Char} (ha : a.length = 8) (hb : b.length = 4)
    (hc : c.length = 4) (hd : d.length = 4) (e : List Char) :
    grouped (a ++ b ++ c ++ d ++ e) = a ++ '-' :: b ++ '-' :: c ++ '-' :: d ++ '-' :: e := by
  simp [grouped, List.drop_append, List.drop_eq_nil_of_le, ha, hb, hc, hd]

theorem grouped_ungrouped (h : IsGrouped cs) : grouped (ungrouped cs) = cs := by
  obtain ⟨length, hyphens⟩ := h
  have group {i : Nat} (hyphen : cs[i]? = some '-') (k : Nat) :
      cs.drop i = '-' :: (cs.drop (i + 1)).take k ++ cs.drop (i + 1 + k) := by
    rw [← List.drop_drop (i := k), List.cons_append, List.take_append_drop,
      List.drop_eq_getElem?_toList_append, hyphen]
    rfl
  have last : cs.drop 23 = '-' :: cs.drop 24 := by
    rw [List.drop_eq_getElem?_toList_append, hyphens 23 (by simp)]
    rfl
  rw [ungrouped, grouped_append (by simp [length]) (by simp [length]) (by simp [length])
    (by simp [length])]
  calc cs.take 8 ++ '-' :: (cs.drop 9).take 4 ++ '-' :: (cs.drop 14).take 4 ++
        '-' :: (cs.drop 19).take 4 ++ '-' :: cs.drop 24
    _ = cs.take 8 ++ cs.drop 8 := by
        rw [group (hyphens 8 (by simp)) 4, group (hyphens 13 (by simp)) 4,
          group (hyphens 18 (by simp)) 4, last]
        simp
    _ = cs := List.take_append_drop 8 cs

theorem map_ungrouped (f : Char → Char) (cs : List Char) :
    (ungrouped cs).map f = ungrouped (cs.map f) := by
  simp [ungrouped, List.map_take, List.map_drop]

/-- The case of letters does not matter to hyphens. -/
theorem isGrouped_map_toLower_iff : IsGrouped (cs.map Char.toLower) ↔ IsGrouped cs := by
  have hyphen (i : Nat) : (cs.map Char.toLower)[i]? = some '-' ↔ cs[i]? = some '-' := by
    rw [List.getElem?_map, Option.map_eq_some_iff]
    simp only [Text.toLower_eq_iff (d := '-') (.inl (by decide)), exists_eq_right]
  simp only [IsGrouped, List.length_map, hyphen]

theorem ofGrouped?_eq_some_iff : ofGrouped? cs = some u ↔ cs.map Char.toLower = u.chars := by
  have split : ofGrouped? cs = some u ↔ IsGrouped cs ∧ ofDigits? (ungrouped cs) = some u := by
    simp [ofGrouped?, IsGrouped, ungrouped]
  rw [split, ofDigits?_eq_some_iff, map_ungrouped, ← isGrouped_map_toLower_iff, chars]
  constructor
  · rintro ⟨grouped, digits⟩
    rw [← digits, grouped_ungrouped grouped]
  · intro written
    rw [written]
    exact ⟨isGrouped_grouped u.length_digits, ungrouped_grouped u.length_digits⟩

theorem length_chars (u : Uuid) : u.chars.length = 36 :=
  length_grouped u.length_digits

/-- Braces are taken off. -/
theorem braced_iff {ds : List Char} (h : 2 ≤ cs.length) :
    cs.map Char.toLower = '\x7b' :: ds ++ ['\x7d'] ↔
      cs.head? = some '\x7b' ∧ cs.getLast? = some '\x7d' ∧
        (cs.drop 1).dropLast.map Char.toLower = ds := by
  obtain ⟨a, middle, b, rfl⟩ : ∃ a middle b, cs = a :: middle ++ [b] := by
    match cs, h with
    | a :: a' :: rest, _ =>
        obtain ⟨middle, b, whole⟩ := (List.eq_nil_or_concat' (a' :: rest)).resolve_left nofun
        exact ⟨a, middle, b, by rw [whole, List.cons_append]⟩
  have opening := Text.toLower_eq_iff (c := a) (d := '\x7b') (.inr (by decide))
  have closing := Text.toLower_eq_iff (c := b) (d := '\x7d') (.inr (by decide))
  simp [opening, closing, List.getLast?_cons, and_comm]

theorem length_scheme : scheme.length = 9 := by
  decide

/-- The scheme is taken off. -/
theorem behind_scheme_iff {ds : List Char} :
    cs.map Char.toLower = scheme ++ ds ↔
      (cs.take 9).map Char.toLower = scheme ∧ (cs.drop 9).map Char.toLower = ds := by
  rw [List.map_take, List.map_drop]
  constructor
  · intro same
    rw [same]
    exact ⟨List.take_left' length_scheme, List.drop_left' length_scheme⟩
  · rintro ⟨front, back⟩
    rw [← List.take_append_drop 9 (cs.map Char.toLower), front, back]

/-- The forms of a UUID differ in length, so the length of a text tells which it can be. -/
theorem parse?_eq_some_iff : parse? cs = some u ↔ cs.map Char.toLower ∈ u.forms := by
  have bare := u.length_digits
  have chars := u.length_chars
  have other {ds : List Char} (h : cs.length ≠ ds.length) : ¬cs.map Char.toLower = ds := by
    intro same
    apply h
    rw [← same, List.length_map]
  simp only [forms, List.mem_cons, List.not_mem_nil, or_false]
  unfold parse?
  split
  · next length =>
      rw [ofDigits?_eq_some_iff]
      simp [other, length, chars, length_scheme]
  · next length =>
      rw [ofGrouped?_eq_some_iff]
      simp [other, length, bare, chars, length_scheme]
  · next length =>
      rw [braced_iff (by omega)]
      simp [other, length, bare, chars, length_scheme, ofGrouped?_eq_some_iff, and_assoc]
  · next length =>
      rw [behind_scheme_iff]
      simp [other, length, bare, chars, ofGrouped?_eq_some_iff]
  · next h32 h36 h38 h45 =>
      refine iff_of_false nofun ?_
      rintro (same | same | same | same)
      · exact other (by rwa [bare]) same
      · exact other (by rwa [chars]) same
      · exact other (by simpa [chars] using h38) same
      · exact other (by simpa [chars, length_scheme] using h45) same

end Uuid

namespace UserId

/-- A text is read as a user id if it is one of the forms of the id, in letters of either case. -/
theorem ofText?_eq_some_iff {text : String} {user : UserId} :
    ofText? text = some user ↔ text.toList.map Char.toLower ∈ user.uuid.forms := by
  rw [ofText?, Option.map_eq_some_iff, ← Uuid.parse?_eq_some_iff]
  constructor
  · rintro ⟨uuid, read, rfl⟩
    exact read
  · intro read
    exact ⟨user.uuid, read, rfl⟩

end UserId

end Reminders
