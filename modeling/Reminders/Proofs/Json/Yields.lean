import Reminders.Json.Decoder

/-!
# What decoders come to

A decoder of records comes to no other values for the fields than their own decoders do
(`Decoder.yielded_of_record`), whether the record is read from an object or from a list. What holds
of all that is decoded for a field therefore holds of the field of every record that is decoded.
-/

namespace Reminders.Json

namespace Decoder

variable {α β : Type} {d : Decoder α}

/-- A value that is read from some source. -/
def Yields (d : Decoder α) (a : α) : Prop := ∃ s rest, d.read s = .ok (a, rest)

theorem yields_of_decode {s : Source} {a : α} (h : d.decode s = .ok a) : d.Yields a := by
  rw [decode] at h
  split at h
  · cases h
  · next accepted =>
      split at h
      · cases h
        exact ⟨_, _, accepted⟩
      · cases h

theorem yields_filterMap {f : α → Option β} {b : β} (h : (d.filterMap f).Yields b) :
    ∃ a, d.Yields a ∧ f a = some b := by
  obtain ⟨s, rest, read⟩ := h
  simp only [filterMap] at read
  split at read
  · cases read
  · next a rest' accepted =>
      split at read
      · cases read
      · next further =>
          cases read
          exact ⟨a, ⟨s, _, accepted⟩, further⟩

theorem yields_map {f : α → β} {b : β} (h : (d.map f).Yields b) : ∃ a, d.Yields a ∧ f a = b := by
  obtain ⟨a, yields, same⟩ := yields_filterMap h
  exact ⟨a, yields, Option.some.inj same⟩

end Decoder

/-- The value of each field is one that its decoder comes to. -/
def Values.Yielded : (shape : Shape) → Values shape → Prop
  | [], _ => True
  | field :: shape, (value, values) => field.decoder.Yields value ∧ Yielded shape values

/-- The value that has been found for a field, if any, is one that its decoder comes to. -/
def Slots.Yielded : (shape : Shape) → Slots shape → Prop
  | [], _ => True
  | field :: shape, (slot, slots) =>
      (∀ value ∈ slot, field.decoder.Yields value) ∧ Yielded shape slots

variable {shape : Shape} {slots slots' : Slots shape} {values : Values shape} {s rest : Source}

theorem Slots.yielded_none (shape : Shape) : Yielded shape (none shape) := by
  induction shape with
  | nil => trivial
  | cons field shape ih =>
      refine ⟨?_, ih⟩
      rintro _ ⟨⟩

theorem Slots.yielded_fill {name : String} (h : Yielded shape slots)
    (filled : fill shape slots name s = .ok (slots', rest)) : Yielded shape slots' := by
  induction shape with
  | nil => trivial
  | cons field shape ih =>
      obtain ⟨slot, slots⟩ := slots
      obtain ⟨front, others⟩ := h
      rw [fill] at filled
      split at filled
      · split at filled
        · cases filled
        · next accepted =>
            cases filled
            refine ⟨?_, others⟩
            rintro _ ⟨⟩
            exact ⟨_, _, accepted⟩
      · split at filled
        · cases filled
        · next accepted =>
            cases filled
            exact ⟨front, ih others accepted⟩

theorem yielded_readMembers {first : Bool} (h : Slots.Yielded shape slots)
    (members : readMembers shape first slots s = .ok (slots', rest)) :
    Slots.Yielded shape slots' := by
  fun_induction readMembers shape first slots s with
  | case1 => cases members
  | case2 =>
      cases members
      exact h
  | case3 => cases members
  | case4 => cases members
  | case5 => cases members
  | case6 _ _ _ _ _ _ _ _ _ _ _ filled ih => exact ih (Slots.yielded_fill h filled) members

theorem Slots.yielded_values (h : Yielded shape slots) (found : values? shape slots = some values) :
    Values.Yielded shape values := by
  induction shape with
  | nil => trivial
  | cons field shape ih =>
      obtain ⟨slot, slots⟩ := slots
      obtain ⟨front, others⟩ := h
      obtain ⟨value, given, found⟩ := Option.bind_eq_some_iff.mp found
      obtain ⟨rest, foundRest, found⟩ := Option.bind_eq_some_iff.mp found
      cases found
      exact ⟨front value given, ih others foundRest⟩

theorem yielded_readElements {first : Bool}
    (elements : readElements shape first s = .ok (values, rest)) : Values.Yielded shape values := by
  induction shape generalizing first s with
  | nil => trivial
  | cons field shape ih =>
      rw [readElements] at elements
      split at elements
      · cases elements
      · split at elements
        · cases elements
        · next accepted =>
            split at elements
            · cases elements
            · next others =>
                cases elements
                exact ⟨⟨_, _, accepted⟩, ih others⟩

/-- The values of a record that is decoded are decoded for its fields. -/
theorem Decoder.yielded_of_record (h : (record shape).Yields values) :
    Values.Yielded shape values := by
  obtain ⟨s, rest, read⟩ := h
  simp only [record] at read
  split at read
  · split at read
    · cases read
    · next members =>
        split at read
        · cases read
        · next found =>
            cases read
            have yielded := yielded_readMembers (Slots.yielded_none shape) members
            exact Slots.yielded_values yielded found
  · exact yielded_readElements read
  · cases read

end Reminders.Json
