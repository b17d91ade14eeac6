import Mathlib.Data.String.Basic
import Mathlib.Tactic.SplitIfs

/-!
# The order of the bytes of texts

Texts are compared character by character, or by the bytes that spell them. Both come to the same:
of two characters the greater one has the greater byte where their bytes first differ
(`diverge_of_lt`), and neither of them begins the other.
-/

namespace Reminders.Text

/-- The bytes that spell a text. -/
def bytes (text : String) : List UInt8 := text.toByteArray.data.toList

theorem bytes_eq (text : String) : bytes text = text.toList.flatMap String.utf8EncodeChar := by
  rw [bytes, ← String.utf8Encode_toList, List.utf8Encode, List.toList_data_toByteArray]

/-- Two runs of bytes differ at some place, where the first one has the lesser byte. -/
def Diverge (bs bs' : List UInt8) : Prop :=
  ∃ front b b' rest rest', bs = front ++ b :: rest ∧ bs' = front ++ b' :: rest' ∧ b < b'

namespace Diverge

variable {bs bs' : List UInt8}

/-- The first bytes decide, or leave it to the others. -/
theorem lead {m n : Nat} (le : m ≤ n) (bound : n < 256) (h : m = n → Diverge bs bs') :
    Diverge (UInt8.ofNat m :: bs) (UInt8.ofNat n :: bs') := by
  by_cases same : m = n
  · obtain ⟨front, b, b', rest, rest', rfl, rfl, lt⟩ := h same
    subst same
    exact ⟨_ :: front, b, b', rest, rest', rfl, rfl, lt⟩
  · refine ⟨[], _, _, bs, bs', rfl, rfl, ?_⟩
    rw [UInt8.lt_iff_toNat_lt, UInt8.toNat_ofNat', UInt8.toNat_ofNat']
    omega

/-- What follows does not matter after the bytes have differed. -/
theorem append_lt (h : Diverge bs bs') (tail tail' : List UInt8) : bs ++ tail < bs' ++ tail' := by
  obtain ⟨front, b, b', rest, rest', rfl, rfl, lt⟩ := h
  rw [List.append_assoc, List.append_assoc]
  apply List.append_left_lt
  rw [List.cons_append, List.cons_append, List.cons_lt_cons_iff]
  exact .inl lt

end Diverge

/-- Of two characters the greater one has the greater byte where their bytes first differ. -/
theorem diverge_of_lt {c d : Char} (h : c < d) :
    Diverge (String.utf8EncodeChar c) (String.utf8EncodeChar d) := by
  have lt : c.val.toNat < d.val.toNat := UInt32.lt_iff_toNat_lt.mp (Char.lt_def.mp h)
  have bound : d.val.toNat < 0x110000 := by
    rcases d.valid with low | ⟨-, high⟩
    · exact Nat.lt_trans low (by decide)
    · exact high
  dsimp only [String.utf8EncodeChar]
  -- A longer spelling has a greater first byte, and spellings of one length are digits to the base
  -- of 64, the most significant one first.
  split_ifs
  all_goals first
    | omega
    | repeat
        apply Diverge.lead (by omega) (by omega)
        intro _
      omega

theorem flatMap_utf8EncodeChar_lt {cs ds : List Char} (h : cs < ds) :
    cs.flatMap String.utf8EncodeChar < ds.flatMap String.utf8EncodeChar := by
  induction cs generalizing ds with
  | nil =>
      cases ds with
      | nil => exact absurd h (List.lt_irrefl _)
      | cons d ds =>
          rw [List.flatMap_nil, List.flatMap_cons]
          cases spelled : String.utf8EncodeChar d with
          | nil => exact absurd spelled String.utf8EncodeChar_ne_nil
          | cons b bs => exact List.nil_lt_cons _ _
  | cons c cs ih =>
      cases ds with
      | nil => exact absurd h (List.not_lt_nil _)
      | cons d ds =>
          rw [List.flatMap_cons, List.flatMap_cons]
          rcases List.cons_lt_cons_iff.mp h with lt | ⟨rfl, lt⟩
          · exact (diverge_of_lt lt).append_lt _ _
          · exact List.append_left_lt (ih lt)

/-- The order of texts is the order of their bytes. -/
theorem bytes_le_bytes_iff {a b : String} : bytes a ≤ bytes b ↔ a ≤ b := by
  constructor
  · intro le gt
    apply le
    rw [bytes_eq, bytes_eq]
    exact flatMap_utf8EncodeChar_lt gt
  · intro le
    rcases lt_or_eq_of_le le with lt | rfl
    · rw [bytes_eq, bytes_eq]
      exact List.le_of_lt (flatMap_utf8EncodeChar_lt lt)
    · exact List.le_refl _

/-- Whether the bytes of one text may stand before those of another. -/
def bytesPrecede (a b : String) : Bool := bytes a ≤ bytes b

theorem bytesPrecede_iff {a b : String} : bytesPrecede a b = true ↔ a ≤ b := by
  rw [bytesPrecede, decide_eq_true_eq, bytes_le_bytes_iff]

theorem bytesPrecede_trans (a b c : String) (h : bytesPrecede a b = true)
    (h' : bytesPrecede b c = true) : bytesPrecede a c = true := by
  rw [bytesPrecede_iff] at *
  exact String.le_trans h h'

theorem bytesPrecede_total (a b : String) : (bytesPrecede a b || bytesPrecede b a) = true := by
  rw [Bool.or_eq_true, bytesPrecede_iff, bytesPrecede_iff]
  exact String.le_total a b

end Reminders.Text
