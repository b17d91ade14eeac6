import Reminders.Text.Digit

/-!
# UUIDs

A UUID is a number of 128 bits. It is printed as 32 lower-case hexadecimal digits in groups of 8, 4,
4, 4 and 12, and read from four written forms: the bare digits, the grouped form, the grouped form
in braces, and the grouped form behind `urn:uuid:`. Letters may be of either case. The main
statement, `ofText?_text`, says that what is printed reads back.
-/

namespace Reminders

structure Uuid where
  bits : BitVec 128
deriving DecidableEq, Hashable, Repr

namespace Uuid

open Text (fixedDigits hexNumber?)

instance : Inhabited Uuid := ⟨⟨0⟩⟩

def nil : Uuid := ⟨0⟩

def isNil (u : Uuid) : Bool := u = nil

@[simp] theorem isNil_iff {u : Uuid} : u.isNil = true ↔ u = nil := by
  simp [isNil]

@[simp] theorem isNil_nil : nil.isNil = true := rfl

/-- The version number, which is the high half of the seventh byte. -/
def version (u : Uuid) : Nat := (u.bits.toNat >>> 76) % 16

/-- Random bits with a version number and the common variant in their places. -/
def stamp (version : BitVec 4) (bits : BitVec 128) : Uuid :=
  ⟨bits.extractLsb' 80 48 ++ version ++ bits.extractLsb' 64 12 ++ 0b10#2 ++
    bits.extractLsb' 0 62⟩

def random (bits : BitVec 128) : Uuid := stamp 4 bits

/-- A time-ordered identifier, of version 7: milliseconds since the epoch before random bits. -/
def timed (millis : Nat) (bits : BitVec 128) : Uuid :=
  stamp 7 (BitVec.ofNat 48 millis ++ bits.extractLsb' 0 80)

def digits (u : Uuid) : List Char := fixedDigits 16 32 u.bits.toNat

def grouped (cs : List Char) : List Char :=
  cs.take 8 ++ '-' :: (cs.drop 8).take 4 ++ '-' :: (cs.drop 12).take 4 ++
    '-' :: (cs.drop 16).take 4 ++ '-' :: cs.drop 20

def chars (u : Uuid) : List Char := grouped u.digits

def text (u : Uuid) : String := String.ofList u.chars

instance : ToString Uuid := ⟨text⟩

def ofDigits? (cs : List Char) : Option Uuid :=
  if cs.length = 32 then (hexNumber? cs 0).map fun n => ⟨BitVec.ofNat 128 n⟩ else none

/-- Reads the grouped form, whose hyphens stand at fixed places. -/
def ofGrouped? (cs : List Char) : Option Uuid :=
  let bare := cs.take 8 ++ (cs.drop 9).take 4 ++ (cs.drop 14).take 4 ++ (cs.drop 19).take 4 ++
    cs.drop 24
  if cs.length = 36 && [8, 13, 18, 23].all (fun i => cs[i]? = some '-') then ofDigits? bare
  else none

/-- The scheme that may stand before the grouped form, in lower case. -/
def scheme : List Char := "urn:uuid:".toList

/-- Reads any of the four written forms. The length of a text decides which form it can be. -/
def parse? (cs : List Char) : Option Uuid :=
  match cs.length with
  | 32 => ofDigits? cs
  | 36 => ofGrouped? cs
  | 38 =>
      if cs.head? = some '\x7b' && cs.getLast? = some '\x7d' then ofGrouped? (cs.drop 1).dropLast
      else none
  | 45 =>
      if (cs.take 9).map Char.toLower = scheme then ofGrouped? (cs.drop 9) else none
  | _ => none

def ofText? (s : String) : Option Uuid := parse? s.toList

@[simp] theorem length_digits (u : Uuid) : u.digits.length = 32 := by
  simp [digits]

@[simp] theorem ofDigits?_digits (u : Uuid) : ofDigits? u.digits = some u := by
  have h := Text.hexNumber?_fixedDigits 32 u.bits.toNat 0
  have lt : u.bits.toNat < .pow 16 32 := u.bits.isLt
  rw [Nat.mul_zero, Nat.zero_add, Nat.mod_eq_of_lt lt] at h
  simp only [ofDigits?, length_digits, if_true]
  rw [digits, h]
  simp

@[simp] theorem length_grouped {cs : List Char} (h : cs.length = 32) :
    (grouped cs).length = 36 := by
  simp [grouped, h]

/-- Grouping 32 digits is undone by reading the grouped form. -/
theorem ofGrouped?_grouped {cs : List Char} (h : cs.length = 32) :
    ofGrouped? (grouped cs) = ofDigits? cs := by
  match cs, h with
  | [a0, a1, a2, a3, a4, a5, a6, a7, a8, a9, b0, b1, b2, b3, b4, b5, b6, b7, b8, b9, c0, c1, c2,
      c3, c4, c5, c6, c7, c8, c9, d0, d1], _ =>
      simp [ofGrouped?, grouped]

/-- What is printed reads back. -/
@[simp] theorem parse?_chars (u : Uuid) : parse? u.chars = some u := by
  have h : u.chars.length = 36 := length_grouped u.length_digits
  unfold parse?
  rw [h]
  simp [chars, ofGrouped?_grouped u.length_digits]

@[simp] theorem ofText?_text (u : Uuid) : ofText? u.text = some u := by
  simp [ofText?, text]

end Uuid

end Reminders
