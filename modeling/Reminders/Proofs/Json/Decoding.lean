import Reminders.Json.Decoder

/-!
# Records from their members

The members of an object are put into the slots of the fields one after the other. If they fit a
record (`Fits`), what has been found is known from the names that have come (`Slots.found`), and a
member adds its own name to them. This holds for members that are read (`Slots.fill_found`) and for
those of a value that has been made (`Slots.put_found`). Such a value is decoded as the record in
whatever order its members stand (`Decoder.ofValue_of_fits`).
-/

namespace Reminders.Json

open Source (skipBlank)

/-- If a member has the name of a field, it is decoded as the value of that field. Members come with
texts or with values, and `decode` tells how these are decoded. -/
def Fits {X : Type} (decode : {α : Type} → Decoder α → X → Except Fault α) :
    (shape : Shape) → Values shape → String × X → Prop
  | [], _, _ => True
  | field :: shape, (value, values), m =>
      if field.name = m.1 then decode field.decoder m.2 = .ok value
      else Fits decode shape values m

namespace Slots

variable {shape : Shape} {values : Values shape} {names : List String} {name : String}

/-- What has been found once the members of some names have been read. -/
def found : (shape : Shape) → Values shape → List String → Slots shape
  | [], _, _ => ()
  | field :: shape, (value, values), names =>
      (if field.name ∈ names then some value else Option.none, found shape values names)

/-- A source that begins with the value of the field of a name, and goes on behind it. -/
def Takes : (shape : Shape) → Values shape → String → Source → Source → Prop
  | [], _, _, _, _ => False
  | field :: shape, (value, values), name, s, rest =>
      if field.name = name then field.decoder.read s = .ok (value, rest)
      else Takes shape values name s rest

theorem found_nil (values : Values shape) : found shape values [] = none shape := by
  induction shape with
  | nil => rfl
  | cons field shape ih =>
      obtain ⟨value, values⟩ := values
      rw [found, none, ih, if_neg List.not_mem_nil]

/-- The name of no field changes nothing. -/
theorem found_cons_of_not_mem (values : Values shape) (names : List String)
    (h : name ∉ shape.map Field.name) :
    found shape values (name :: names) = found shape values names := by
  induction shape with
  | nil => rfl
  | cons field shape ih =>
      obtain ⟨value, values⟩ := values
      obtain ⟨other, others⟩ := List.ne_and_not_mem_of_not_mem_cons h
      have same : field.name ∈ name :: names ↔ field.name ∈ names := by
        rw [List.mem_cons, or_iff_right other.symm]
      exact Prod.ext (ite_congr (propext same) (fun _ => rfl) fun _ => rfl) (ih values others)

theorem isFilled_found_of_not_mem (values : Values shape) (h : name ∉ names) :
    isFilled shape (found shape values names) name = false := by
  induction shape with
  | nil => rfl
  | cons field shape ih =>
      obtain ⟨value, values⟩ := values
      rw [found, isFilled]
      split
      · next same =>
          rw [if_neg (same ▸ h)]
          rfl
      · exact ih values

theorem values?_found (values : Values shape) (h : ∀ field ∈ shape, field.name ∈ names) :
    values? shape (found shape values names) = some values := by
  induction shape with
  | nil => rfl
  | cons field shape ih =>
      obtain ⟨value, values⟩ := values
      obtain ⟨first, others⟩ := List.forall_mem_cons.mp h
      rw [found, if_pos first, values?, ih values others]
      rfl

/-- If the name of each field has come once, all values have been found. -/
theorem values?_found_of_single (values : Values shape)
    (single : ∀ name ∈ shape.map Field.name, names.count name = 1) :
    values? shape (found shape values names.reverse) = some values := by
  refine values?_found values fun field mem => ?_
  rw [List.mem_reverse, ← List.count_pos_iff, single _ (List.mem_map_of_mem mem)]
  exact Nat.one_pos

/-- A member whose value is read leaves its name among those that have been. -/
theorem fill_found {s rest : Source} (distinct : (shape.map Field.name).Nodup)
    (takes : Takes shape values name s rest) :
    fill shape (found shape values names) name s =
      .ok (found shape values (name :: names), rest) := by
  induction shape with
  | nil => exact takes.elim
  | cons field shape ih =>
      obtain ⟨value, values⟩ := values
      obtain ⟨single, distinct⟩ := List.nodup_cons.mp distinct
      rw [Takes] at takes
      rw [found, found, fill]
      -- The value goes into the slot of this field, or past it: no later field has the same name.
      by_cases same : field.name = name
      · rw [if_pos same] at takes
        rw [if_pos same, takes, if_pos (same ▸ List.mem_cons_self),
          found_cons_of_not_mem values names (same ▸ single)]
      · rw [if_neg same] at takes
        have kept : field.name ∈ name :: names ↔ field.name ∈ names := by
          rw [List.mem_cons, or_iff_right same]
        simp only [if_neg same, ih distinct takes, kept]

/-- A member of a value that fits leaves its name among those that have come. -/
theorem put_found {m : String × Value} (distinct : (shape.map Field.name).Nodup)
    (fits : Fits Decoder.ofValue shape values m) :
    put shape (found shape values names) m = .ok (found shape values (m.1 :: names)) := by
  induction shape with
  | nil => rfl
  | cons field shape ih =>
      obtain ⟨value, values⟩ := values
      obtain ⟨single, distinct⟩ := List.nodup_cons.mp distinct
      rw [Fits] at fits
      rw [found, found, put]
      by_cases same : field.name = m.1
      · rw [if_pos same] at fits
        rw [if_pos same, fits, if_pos (same ▸ List.mem_cons_self),
          found_cons_of_not_mem values names (same ▸ single)]
      · rw [if_neg same] at fits
        have kept : field.name ∈ m.1 :: names ↔ field.name ∈ names := by
          rw [List.mem_cons, or_iff_right same]
        simp only [if_neg same, ih distinct fits, kept]

theorem isFilled_of_not_mem {slots : Slots shape} (unknown : name ∉ shape.map Field.name) :
    isFilled shape slots name = false := by
  induction shape with
  | nil => rfl
  | cons field shape ih =>
      obtain ⟨slot, slots⟩ := slots
      obtain ⟨other, unknown⟩ := List.ne_and_not_mem_of_not_mem_cons unknown
      rw [isFilled, if_neg other.symm, ih unknown]

end Slots

theorem count_reverse_le_one {names known : List String}
    (single : ∀ name ∈ known, names.count name = 1) :
    ∀ name ∈ known, (names.reverse ++ []).count name ≤ 1 := by
  intro name mem
  rw [List.append_nil, List.count_reverse]
  exact Nat.le_of_eq (single name mem)

theorem not_mem_of_count_le_one {name : String} {xs names : List String}
    (h : (xs ++ name :: names).count name ≤ 1) : name ∉ names := by
  rw [List.count_append, List.count_cons_self] at h
  exact List.count_eq_zero.mp (by omega)

/-! ### Members of a value -/

section Values

variable {shape : Shape} {values : Values shape} {names : List String}
  {ms : List (String × Value)}

/-- By induction on them, members that fit are all put in, if no field has two of them. -/
theorem Slots.putAll_found (distinct : (shape.map Field.name).Nodup)
    (fits : ∀ m ∈ ms, Fits Decoder.ofValue shape values m)
    (single : ∀ name ∈ shape.map Field.name, ((ms.map Prod.fst).reverse ++ names).count name ≤ 1) :
    putAll shape (found shape values names) ms =
      .ok (found shape values ((ms.map Prod.fst).reverse ++ names)) := by
  induction ms generalizing names with
  | nil => rfl
  | cons m ms ih =>
      -- A name goes in front of those before it, so in the end they stand in reverse.
      rw [List.map_cons, List.reverse_cons, List.append_assoc, List.singleton_append] at single ⊢
      obtain ⟨fitsFirst, fitsRest⟩ := List.forall_mem_cons.mp fits
      have new : isFilled shape (found shape values names) m.1 = false := by
        by_cases known : m.1 ∈ shape.map Field.name
        · exact isFilled_found_of_not_mem values (not_mem_of_count_le_one (single _ known))
        · exact isFilled_of_not_mem known
      rw [putAll, new, if_neg Bool.false_ne_true, put_found distinct fitsFirst]
      exact ih fitsRest single

/-- A value that has one member for each field, and only members that fit, is decoded as the record.
-/
theorem Decoder.ofValue_of_fits (distinct : (shape.map Field.name).Nodup)
    (fits : ∀ m ∈ ms, Fits Decoder.ofValue shape values m)
    (single : ∀ name ∈ shape.map Field.name, (ms.map Prod.fst).count name = 1) :
    (record shape).ofValue (.object ms) = .ok values := by
  have all := Slots.putAll_found distinct fits (count_reverse_le_one single)
  rw [Slots.found_nil, List.append_nil] at all
  simp only [record, all, Slots.values?_found_of_single values single]

end Values

/-! ### Members that are read -/

section

variable {shape : Shape} {first : Bool} {slots slots' : Slots shape} {name : String} {rest : Source}

theorem readMembers_of_close {s : Source} (closed : readName first s = .ok (none, rest)) :
    readMembers shape first slots s = .ok (slots, rest) := by
  rw [readMembers]
  split
  · next h => cases h.symm.trans closed
  · next h =>
      cases h.symm.trans closed
      rfl
  · next h => cases h.symm.trans closed

/-- One member is read: its name, which is new, and its value. -/
theorem readMembers_of_name {s colon value : Source}
    (named : readName first s = .ok (some name, colon))
    (new : Slots.isFilled shape slots name = false) (behind : skipColon colon = .ok value)
    (filled : Slots.fill shape slots name value = .ok (slots', rest)) :
    readMembers shape first slots s = readMembers shape false slots' rest := by
  rw [readMembers]
  split
  · next h => cases h.symm.trans named
  · next h => cases h.symm.trans named
  · next h =>
      cases h.symm.trans named
      rw [new, if_neg Bool.false_ne_true]
      split
      · next h => cases h.symm.trans behind
      · next h =>
          cases h.symm.trans behind
          split
          · next h => cases h.symm.trans filled
          · next h =>
              cases h.symm.trans filled
              rfl

end

end Reminders.Json
