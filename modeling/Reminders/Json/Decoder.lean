import Reminders.Json.Skip
import Reminders.Json.Value

/-!
# Decoding JSON

A decoder reads one value off the front of a source and takes up at least one item of it. Records
are decoded from a `Shape`, the list of their fields. In an object the members may come in any
order, once each, and members with other names are skipped; in a list the values come in the order
of the fields. A source is read in one pass, so its first fault is the one reported.

A decoder also decodes a value that has been made, without a text of it. Such a value can only be of
the wrong kind.
-/

namespace Reminders.Json

open Source (skipBlank)

/-- A reader of values at the front of a source. -/
structure Decoder (α : Type) where
  read : Source → Except Fault (α × Source)
  /-- Decodes a value that has been made. -/
  ofValue : Value → Except Fault α
  shrinks : ∀ {s rest : Source} {a : α}, read s = .ok (a, rest) → rest.length < s.length

namespace Decoder

def text : Decoder String where
  read s :=
    match skipBlank s with
    | some '"' :: rest => readString [] true rest
    | s => .error (mismatch s)
  ofValue
    | .text s => .ok s
    | _ => .error .mismatched
  shrinks := by
    intro s rest a h
    split at h
    · next hs =>
        exact Nat.lt_trans (length_of_readString h) (Source.length_lt_of_skipBlank hs)
    · simp at h

/-- Decodes a value and reads it further, if that is possible. -/
def filterMap {α β : Type} (d : Decoder α) (f : α → Option β) : Decoder β where
  read s :=
    match d.read s with
    | .error e => .error e
    | .ok (a, rest) =>
        match f a with
        | none => .error .mismatched
        | some b => .ok (b, rest)
  ofValue json :=
    match d.ofValue json with
    | .error e => .error e
    | .ok a =>
        match f a with
        | none => .error .mismatched
        | some b => .ok b
  shrinks := by
    intro s rest b h
    split at h
    · simp at h
    · next hr =>
        split at h
        · simp at h
        · simp only [Except.ok.injEq, Prod.mk.injEq] at h
          obtain ⟨_, rfl⟩ := h
          exact d.shrinks hr

/-- Decodes a value and puts another in its place. -/
def map {α β : Type} (d : Decoder α) (f : α → β) : Decoder β := d.filterMap fun a => some (f a)

/-- Decodes a source that holds one value and nothing after it. -/
def decode {α : Type} (d : Decoder α) (s : Source) : Except Fault α :=
  match d.read s with
  | .error e => .error e
  | .ok (a, rest) => if (skipBlank rest).isEmpty then .ok a else .error .malformed

end Decoder

/-- A field of a record: its name and how its value is read. -/
structure Field where
  name : String
  Value : Type
  decoder : Decoder Value

/-- The fields of a record. -/
abbrev Shape := List Field

/-- The values of a record's fields. -/
def Values : Shape → Type
  | [] => Unit
  | field :: shape => field.Value × Values shape

/-- The values found so far for a record's fields. -/
def Slots : Shape → Type
  | [] => Unit
  | field :: shape => Option field.Value × Slots shape

theorem rest_eq {α : Type} {a b : α} {rest rest' : Source}
    (h : (Except.ok (a, rest) : Except Fault (α × Source)) = .ok (b, rest')) : rest = rest' :=
  congrArg Prod.snd (Except.ok.inj h)

namespace Slots

def none : (shape : Shape) → Slots shape
  | [] => ()
  | _ :: shape => (Option.none, none shape)

/-- Whether a value has been found for the field of a name. -/
def isFilled : (shape : Shape) → Slots shape → String → Bool
  | [], _, _ => false
  | field :: shape, (slot, slots), name =>
      if field.name = name then slot.isSome else isFilled shape slots name

/-- Reads a value into the field of a name, or skips it if there is no such field. -/
def fill : (shape : Shape) → Slots shape → String → Source → Except Fault (Slots shape × Source)
  | [], _, _, s =>
      match skipValue s with
      | .error f => .error f
      | .ok rest => .ok ((), rest)
  | field :: shape, (slot, slots), name, s =>
      if field.name = name then
        match field.decoder.read s with
        | .error f => .error f
        | .ok (value, rest) => .ok ((some value, slots), rest)
      else
        match fill shape slots name s with
        | .error f => .error f
        | .ok (slots, rest) => .ok ((slot, slots), rest)

/-- Puts the value of a member into the field of its name, if there is such a field. -/
def put : (shape : Shape) → Slots shape → String × Value → Except Fault (Slots shape)
  | [], _, _ => .ok ()
  | field :: shape, (slot, slots), m =>
      if field.name = m.1 then
        match field.decoder.ofValue m.2 with
        | .error f => .error f
        | .ok value => .ok (some value, slots)
      else
        match put shape slots m with
        | .error f => .error f
        | .ok slots => .ok (slot, slots)

/-- Puts in the values of members, one after the other. A second member for a field is refused. -/
def putAll (shape : Shape) (slots : Slots shape) : List (String × Value) →
    Except Fault (Slots shape)
  | [] => .ok slots
  | m :: ms =>
      if isFilled shape slots m.1 then .error .mismatched
      else
        match put shape slots m with
        | .error f => .error f
        | .ok slots => putAll shape slots ms

/-- The values of all fields, if every one has been found. -/
def values? : (shape : Shape) → Slots shape → Option (Values shape)
  | [], _ => some ()
  | _ :: shape, (slot, slots) => do
      let value ← slot
      let values ← values? shape slots
      return (value, values)

theorem length_of_fill {shape : Shape} {slots slots' : Slots shape} {name : String}
    {s rest : Source} (h : fill shape slots name s = .ok (slots', rest)) :
    rest.length < s.length := by
  induction shape with
  | nil =>
      simp only [fill] at h
      split at h
      · simp at h
      · next hs =>
          have h := rest_eq h
          exact h ▸ length_of_skipValue hs
  | cons field shape ih =>
      obtain ⟨slot, slots⟩ := slots
      simp only [fill] at h
      split at h
      · split at h
        · simp at h
        · next hr =>
            have h := rest_eq h
            exact h ▸ field.decoder.shrinks hr
      · split at h
        · simp at h
        · next hf =>
            obtain rfl := rest_eq h
            exact ih hf

end Slots

/-- Reads the name of the next member, or the brace behind the last one. -/
def readName (first : Bool) (s : Source) : Except Fault (Option String × Source) :=
  match skipBlank s with
  | [] => .error .truncated
  | some '\x7d' :: rest => .ok (none, rest)
  | some '"' :: rest =>
      if first then (readString [] true rest).map fun p => (some p.1, p.2) else .error .malformed
  | some ',' :: rest =>
      if first then .error .malformed
      else
        match skipBlank rest with
        | [] => .error .truncated
        | some '"' :: rest' => (readString [] true rest').map fun p => (some p.1, p.2)
        | _ => .error .malformed
  | _ => .error .malformed

theorem length_of_readName {first : Bool} {s rest : Source} {name : Option String}
    (h : readName first s = .ok (name, rest)) : rest.length < s.length := by
  have key {s rest : Source} {name : Option String}
      (h : (readString [] true s).map (fun p => (some p.1, p.2)) = .ok (name, rest)) :
      rest.length < s.length := by
    cases hr : readString [] true s with
    | error f => simp [hr, Except.map] at h
    | ok p =>
        simp only [hr, Except.map, Except.ok.injEq, Prod.mk.injEq] at h
        exact h.2 ▸ length_of_readString hr
  unfold readName at h
  split at h
  · simp at h
  · next hs =>
      simp only [Except.ok.injEq, Prod.mk.injEq] at h
      exact h.2 ▸ Source.length_lt_of_skipBlank hs
  · next hs =>
      split at h
      · exact Nat.lt_trans (key h) (Source.length_lt_of_skipBlank hs)
      · simp at h
  · next hs =>
      split at h
      · simp at h
      · split at h
        · simp at h
        · next hc =>
            have := key h
            have := Source.length_lt_of_skipBlank hc
            have := Source.length_lt_of_skipBlank hs
            omega
        · simp at h
  · simp at h

/-- Reads the members of an object up to its closing brace. A second member for a field is refused
as soon as its name is read. -/
def readMembers (shape : Shape) (first : Bool) (slots : Slots shape) (s : Source) :
    Except Fault (Slots shape × Source) :=
  match _hn : readName first s with
  | .error f => .error f
  | .ok (none, rest) => .ok (slots, rest)
  | .ok (some name, rest) =>
      if Slots.isFilled shape slots name then .error .mismatched
      else
        match _hc : skipColon rest with
        | .error f => .error f
        | .ok rest' =>
            match _hf : Slots.fill shape slots name rest' with
            | .error f => .error f
            | .ok (slots', rest'') => readMembers shape false slots' rest''
termination_by s.length
decreasing_by
  have := length_of_readName _hn
  have := length_of_skipColon _hc
  have := Slots.length_of_fill _hf
  omega

theorem length_of_readMembers {shape : Shape} {first : Bool} {slots slots' : Slots shape}
    {s rest : Source} (h : readMembers shape first slots s = .ok (slots', rest)) :
    rest.length < s.length := by
  fun_induction readMembers shape first slots s with
  | case1 => simp at h
  | case2 _ _ _ _ hn =>
      simp only [Except.ok.injEq, Prod.mk.injEq] at h
      exact h.2 ▸ length_of_readName hn
  | case3 => simp at h
  | case4 => simp at h
  | case5 => simp at h
  | case6 _ _ _ _ _ hn _ _ hc _ _ hf ih =>
      have := length_of_readName hn
      have := length_of_skipColon hc
      have := Slots.length_of_fill hf
      have := ih h
      omega

/-- Passes over what stands before the next element of a list, which must have one. -/
def skipToElement (first : Bool) (s : Source) : Except Fault Source :=
  match skipBlank s with
  | [] => .error .truncated
  | some ']' :: _ => .error .mismatched
  | some ',' :: rest =>
      if first then .ok (some ',' :: rest)
      else
        match skipBlank rest with
        | [] => .error .truncated
        | some ']' :: _ => .error .malformed
        | rest' => .ok rest'
  | s => if first then .ok s else .error .malformed

/-- Reads the values of fields from the elements of a list, up to its closing bracket. -/
def readElements : (shape : Shape) → (first : Bool) → Source →
    Except Fault (Values shape × Source)
  | [], _, s =>
      match skipBlank s with
      | [] => .error .truncated
      | some ']' :: rest => .ok ((), rest)
      | _ => .error .malformed
  | field :: shape, first, s =>
      match skipToElement first s with
      | .error f => .error f
      | .ok s' =>
          match field.decoder.read s' with
          | .error f => .error f
          | .ok (value, rest) =>
              match readElements shape false rest with
              | .error f => .error f
              | .ok (values, rest') => .ok ((value, values), rest')

theorem length_of_skipToElement {first : Bool} {s rest : Source}
    (h : skipToElement first s = .ok rest) : rest.length ≤ s.length := by
  have le := Source.length_skipBlank_le s
  unfold skipToElement at h
  split at h
  · simp at h
  · simp at h
  · next hs =>
      rw [hs] at le
      split at h
      · simp only [Except.ok.injEq] at h
        exact h ▸ le
      · split at h
        · simp at h
        · simp at h
        · simp only [Except.ok.injEq] at h
          have := Source.length_skipBlank_le
          rw [← h]
          exact Nat.le_trans (this _) (Nat.le_of_succ_le le)
  · split at h
    · simp only [Except.ok.injEq] at h
      exact h ▸ le
    · simp at h

theorem length_of_readElements {shape : Shape} {first : Bool} {s rest : Source}
    {values : Values shape} (h : readElements shape first s = .ok (values, rest)) :
    rest.length < s.length := by
  induction shape generalizing first s with
  | nil =>
      simp only [readElements] at h
      split at h
      · simp at h
      · next hs =>
          have h := rest_eq h
          exact h ▸ Source.length_lt_of_skipBlank hs
      · simp at h
  | cons field shape ih =>
      simp only [readElements] at h
      split at h
      · simp at h
      · next ht =>
          split at h
          · simp at h
          · next hr =>
              split at h
              · simp at h
              · next he =>
                  obtain rfl := rest_eq h
                  have := length_of_skipToElement ht
                  have := field.decoder.shrinks hr
                  have := ih he
                  omega

/-- Decodes the values of fields from the elements of a list, as many as there are fields. -/
def ofElements : (shape : Shape) → List Value → Except Fault (Values shape)
  | [], [] => .ok ()
  | field :: shape, v :: vs =>
      match field.decoder.ofValue v with
      | .error f => .error f
      | .ok value =>
          match ofElements shape vs with
          | .error f => .error f
          | .ok values => .ok (value, values)
  | _, _ => .error .mismatched

/-- Decodes the values of a record's fields from an object or a list. A missing member is noticed at
the closing brace. -/
def Decoder.record (shape : Shape) : Decoder (Values shape) where
  read s :=
    match skipBlank s with
    | some '\x7b' :: rest =>
        match readMembers shape true (Slots.none shape) rest with
        | .error f => .error f
        | .ok (slots, rest') =>
            match Slots.values? shape slots with
            | none => .error .mismatched
            | some values => .ok (values, rest')
    | some '[' :: rest => readElements shape true rest
    | s => .error (mismatch s)
  ofValue
    | .object ms =>
        match Slots.putAll shape (Slots.none shape) ms with
        | .error f => .error f
        | .ok slots =>
            match Slots.values? shape slots with
            | none => .error .mismatched
            | some values => .ok values
    | .list elements => ofElements shape elements
    | _ => .error .mismatched
  shrinks := by
    intro s rest values h
    split at h
    · next hs =>
        split at h
        · simp at h
        · next hm =>
            split at h
            · simp at h
            · simp only [Except.ok.injEq, Prod.mk.injEq] at h
              exact h.2 ▸ Nat.lt_trans (length_of_readMembers hm)
                (Source.length_lt_of_skipBlank hs)
    · next hs =>
        exact Nat.lt_trans (length_of_readElements h) (Source.length_lt_of_skipBlank hs)
    · simp at h

end Reminders.Json
