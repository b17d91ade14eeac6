import Reminders.Proofs.Json.Decoding
import Reminders.Proofs.Json.Stability

/-!
# Objects and their members

An object is told here by its members alone, with their names and the texts of their values. It is
decoded as a record if there is one member for each field and that has a value of the field
(`Decoder.decode_of_fits`), and it is refused if a field has no member or more than one
(`Decoder.decode_of_uneven`). Both are shown member by member: in an object that is a record a
member adds its name to those that have been found, and in any other object it is refused or makes
the slot of its name as full as the name has occurred.
-/

namespace Reminders.Json

open Grammar
open Source (Ends ends_of_blank skipBlank)

namespace Grammar

/-- A text begins with a member of an object, told by its name and the text of its value. The name
has to spell a string, as it is decoded; the value has only to be well-formed. -/
inductive Member : List Char → String × List Char → List Char → Prop where
  | mk {s s₁ cs rest : List Char} {name : String} (named : Name s name s₁)
      (space : Blank s₁ (cs ++ rest)) (value : Forms .value (cs ++ rest) rest) :
      Member s (name, cs) rest

/-- What stands behind the opening brace of an object that has members. -/
inductive Entries : List Char → List (String × List Char) → List Char → Prop where
  | last {s s₁ rest : List Char} {m : String × List Char} (member : Member s m s₁)
      (after : Blank s₁ ('\x7d' :: rest)) : Entries s [m] rest
  | next {s s₁ s₂ rest : List Char} {m : String × List Char} {ms : List (String × List Char)}
      (member : Member s m s₁) (after : Blank s₁ (',' :: s₂)) (more : Entries s₂ ms rest) :
      Entries s (m :: ms) rest

/-- A text is an object and nothing else. -/
inductive Object : List Char → List (String × List Char) → Prop where
  | none {text s rest : List Char} (brace : Blank text ('\x7b' :: s))
      (close : Blank s ('\x7d' :: rest)) (after : Blank rest []) : Object text []
  | some {text s rest : List Char} {ms : List (String × List Char)}
      (brace : Blank text ('\x7b' :: s)) (entries : Entries s ms rest) (after : Blank rest []) :
      Object text ms

end Grammar

variable {α β : Type}

namespace Decoder

variable {d : Decoder α} {a : α} {s : Source}

theorem exists_read_of_decode (h : d.decode s = .ok a) :
    ∃ rest, d.read s = .ok (a, rest) ∧ skipBlank rest = [] := by
  rw [decode] at h
  split at h
  · cases h
  · next a' rest accepted =>
      split at h
      · next nothing =>
          cases h
          exact ⟨rest, accepted, List.isEmpty_iff.mp nothing⟩
      · cases h

theorem decode_of_read {rest : Source} (h : d.read s = .ok (a, rest))
    (after : skipBlank rest = []) : d.decode s = .ok a := by
  simp only [decode, h, after]
  rfl

/-- Decodes a text. -/
abbrev ofChars (d : Decoder α) (cs : List Char) : Except Fault α := d.decode (cs.map some)

theorem decode_eq_mismatched_iff :
    d.decode s = .error .mismatched ↔ d.read s = .error .mismatched := by
  rw [decode]
  split
  · next e refused =>
      rw [refused]
      simp
  · next a' rest accepted =>
      rw [accepted]
      split
      · simp
      · simp

/-- Where a value stands in an object it is judged as it is alone. -/
theorem Stable.read_eq (h : d.Stable) {s₁ s₂ cs : List Char} (space : Blank s₁ (cs ++ s₂))
    {r : Except Fault (α × Source)} (alone : d.read (cs.map Option.some) = r) (judged : Judged r)
    (ends : Ends (s₂.map Option.some)) :
    d.read (s₁.map Option.some) = r.map (extend (s₂.map Option.some)) := by
  rw [← h.read_skipBlank, skipBlank_of_blank space, h.read_skipBlank, List.map_append]
  exact h.read_append alone judged ends

end Decoder

section Members

variable {shape : Shape} {values : Values shape} {slots : Slots shape} {first : Bool}
variable {name : String} {names : List String} {ms : List (String × List Char)}
variable {s s₁ s₂ cs rest : List Char} {s₀ : Source}

/-- A member of an object comes next: the first one, or another one behind its comma. -/
def Opens (first : Bool) (s₀ : Source) (s : List Char) : Prop :=
  skipBlank s₀ = if first then skipBlank (s.map some) else some ',' :: s.map some

theorem opens_first (s : List Char) : Opens true (s.map some) s := rfl

theorem opens_of_comma (comma : skipBlank s₀ = some ',' :: s.map some) : Opens false s₀ s := comma

theorem exists_readName (opens : Opens first s₀ s) (named : Name s name rest) :
    ∃ colon, readName first s₀ = .ok (some name, colon) ∧
      skipColon colon = .ok (rest.map some) := by
  obtain ⟨before, quoted, after⟩ := named
  rename_i s₁ s₂ cs
  have quote := skipBlank_of_solid before (by decide)
  have string := readString_of_quoted quoted []
  refine ⟨s₂.map some, ?_, ?_⟩
  · cases first with
    | true =>
        have opens : skipBlank s₀ = skipBlank (s.map some) := opens
        simp only [readName, opens, quote, string]
        rfl
    | false =>
        have opens : skipBlank s₀ = some ',' :: s.map some := opens
        simp only [readName, opens, quote, string]
        rfl
  · simp only [skipColon, skipBlank_of_solid after (by decide)]

theorem skipValue_of_forms (space : Blank s₁ (cs ++ s₂)) (value : Forms .value (cs ++ s₂) s₂)
    (ends : Ends (s₂.map some)) : skipValue (s₁.map some) = .ok (s₂.map some) := by
  rw [skipValue, skip_before_congr (skipBlank_of_blank space), passes_of_forms value ends,
    skip_done]

/-- Whatever reads a well-formed value as skipping would ends behind the value. -/
theorem eq_of_skip (space : Blank s₁ (cs ++ s₂)) (value : Forms .value (cs ++ s₂) s₂)
    (ends : Ends (s₂.map some)) {r : Source}
    (passed : skip .before [] (s₁.map some) = skip .behind [] r) : r = s₂.map some := by
  rw [skip_done, ← skipValue, skipValue_of_forms space value ends] at passed
  exact (Except.ok.inj passed).symm

theorem fill_of_not_mem {slots : Slots shape} {s rest : Source}
    (unknown : name ∉ shape.map Field.name) (passed : skipValue s = .ok rest) :
    Slots.fill shape slots name s = .ok (slots, rest) := by
  induction shape with
  | nil =>
      simp only [Slots.fill, passed]
      rfl
  | cons field shape ih =>
      obtain ⟨slot, slots⟩ := slots
      obtain ⟨other, unknown⟩ := List.ne_and_not_mem_of_not_mem_cons unknown
      simp only [Slots.fill, if_neg other.symm, ih unknown]

theorem readMembers_of_brace {s rest : Source} (close : skipBlank s = some '\x7d' :: rest) :
    readMembers shape first slots s = .ok (slots, rest) := by
  refine readMembers_of_close ?_
  simp only [readName, close]

/-! ### Objects that are a record -/

/-- A member that fits is read as the value of its field, to its end. -/
theorem takes_of_fits (stable : ∀ field ∈ shape, field.decoder.Stable)
    (known : name ∈ shape.map Field.name) (fits : Fits Decoder.ofChars shape values (name, cs))
    (space : Blank s₁ (cs ++ s₂)) (value : Forms .value (cs ++ s₂) s₂) (ends : Ends (s₂.map some)) :
    Slots.Takes shape values name (s₁.map some) (s₂.map some) := by
  induction shape with
  | nil => cases known
  | cons field shape ih =>
      obtain ⟨a, values⟩ := values
      obtain ⟨stable, others⟩ := List.forall_mem_cons.mp stable
      rw [Fits] at fits
      rw [Slots.Takes]
      split
      · next same =>
          rw [if_pos same] at fits
          obtain ⟨rest, alone, -⟩ := Decoder.exists_read_of_decode fits
          have read : field.decoder.read (s₁.map some) = .ok (a, rest ++ s₂.map some) :=
            stable.read_eq space alone trivial ends
          rw [read, eq_of_skip space value ends (stable.skip_of_read read [])]
      · next other =>
          rw [if_neg other] at fits
          exact ih others (List.mem_of_ne_of_mem (Ne.symm other) known) fits

/-- One member is read. -/
theorem readMembers_found (stable : ∀ field ∈ shape, field.decoder.Stable)
    (distinct : (shape.map Field.name).Nodup) {m : String × List Char}
    (fits : Fits Decoder.ofChars shape values m)
    (new : m.1 ∈ shape.map Field.name → m.1 ∉ names) (opens : Opens first s₀ s)
    (member : Member s m rest) (ends : Ends (rest.map some)) :
    readMembers shape first (Slots.found shape values names) s₀ =
      readMembers shape false (Slots.found shape values (m.1 :: names)) (rest.map some) := by
  obtain ⟨named, space, value⟩ := member
  obtain ⟨colon, read, behind⟩ := exists_readName opens named
  rename_i s₁ cs name
  by_cases known : name ∈ shape.map Field.name
  · exact readMembers_of_name read (Slots.isFilled_found_of_not_mem values (new known)) behind
      (Slots.fill_found distinct (takes_of_fits stable known fits space value ends))
  · rw [Slots.found_cons_of_not_mem values names known]
    exact readMembers_of_name read (Slots.isFilled_of_not_mem known) behind
      (fill_of_not_mem known (skipValue_of_forms space value ends))

/-- By induction on its members, an object in which no field has two of them and all of them fit is
read to its end. -/
theorem readMembers_of_fits (stable : ∀ field ∈ shape, field.decoder.Stable)
    (distinct : (shape.map Field.name).Nodup) (fits : ∀ m ∈ ms, Fits Decoder.ofChars shape values m)
    (single : ∀ name ∈ shape.map Field.name, ((ms.map Prod.fst).reverse ++ names).count name ≤ 1)
    (opens : Opens first s₀ s) (entries : Entries s ms rest) :
    readMembers shape first (Slots.found shape values names) s₀ =
      .ok (Slots.found shape values ((ms.map Prod.fst).reverse ++ names), rest.map some) := by
  induction entries generalizing first s₀ names with
  | last member after =>
      rw [List.map_cons, List.reverse_cons, List.append_assoc, List.singleton_append] at single ⊢
      obtain ⟨fits, -⟩ := List.forall_mem_cons.mp fits
      rw [readMembers_found stable distinct fits
        (fun known => not_mem_of_count_le_one (single _ known)) opens member
        (ends_of_blank after (by decide)),
        readMembers_of_brace (skipBlank_of_solid after (by decide))]
      rfl
  | next member after more ih =>
      -- A name goes in front of those read before it, so in the end they stand in reverse.
      rw [List.map_cons, List.reverse_cons, List.append_assoc, List.singleton_append] at single ⊢
      obtain ⟨fits, others⟩ := List.forall_mem_cons.mp fits
      rw [readMembers_found stable distinct fits
        (fun known => not_mem_of_count_le_one (single _ known)) opens member
        (ends_of_blank after (by decide)),
        ih others single (opens_of_comma (skipBlank_of_solid after (by decide)))]

/-! ### Objects that are no record -/

/-- A member fills the slot of its own name and leaves the others as they are. -/
theorem isFilled_of_fill {slots' : Slots shape} {s rest : Source}
    (h : Slots.fill shape slots name s = .ok (slots', rest)) {n : String}
    (known : n ∈ shape.map Field.name) :
    Slots.isFilled shape slots' n = (n == name || Slots.isFilled shape slots n) := by
  induction shape with
  | nil => cases known
  | cons field shape ih =>
      obtain ⟨slot, slots⟩ := slots
      rw [Slots.fill] at h
      split at h
      · next same =>
          subst same
          split at h
          · cases h
          · cases h
            rw [Slots.isFilled, Slots.isFilled]
            split
            · next asked => rw [asked, beq_self_eq_true, Option.isSome_some, Bool.true_or]
            · next other => rw [beq_false_of_ne (Ne.symm other), Bool.false_or]
      · next other =>
          split at h
          · cases h
          · next filled =>
              cases h
              rw [Slots.isFilled, Slots.isFilled]
              split
              · next asked =>
                  subst asked
                  rw [beq_false_of_ne other, Bool.false_or]
              · next other' => exact ih filled (List.mem_of_ne_of_mem (Ne.symm other') known)

/-- If a member is refused it is of the wrong kind, unless its own text is at fault. -/
theorem mismatched_of_fill (stable : ∀ field ∈ shape, field.decoder.Stable)
    (judged : ∀ field ∈ shape, field.name = name → Judged (field.decoder.decode (cs.map some)))
    (space : Blank s₁ (cs ++ s₂)) (value : Forms .value (cs ++ s₂) s₂) (ends : Ends (s₂.map some))
    {f : Fault} (refused : Slots.fill shape slots name (s₁.map some) = .error f) :
    f = .mismatched := by
  induction shape with
  | nil =>
      rw [Slots.fill, skipValue_of_forms space value ends] at refused
      cases refused
  | cons field shape ih =>
      obtain ⟨slot, slots⟩ := slots
      obtain ⟨stable, others⟩ := List.forall_mem_cons.mp stable
      obtain ⟨judged, judgedOthers⟩ := List.forall_mem_cons.mp judged
      rw [Slots.fill] at refused
      split at refused
      · next same =>
          have judged := judged same
          cases decoded : field.decoder.decode (cs.map some) with
          | error g =>
              rw [decoded] at judged
              cases judged
              have alone := Decoder.decode_eq_mismatched_iff.mp decoded
              rw [stable.read_eq space alone rfl ends] at refused
              cases refused
              rfl
          | ok a =>
              obtain ⟨r, alone, -⟩ := Decoder.exists_read_of_decode decoded
              rw [stable.read_eq space alone trivial ends] at refused
              cases refused
      · split at refused
        · next filled =>
            cases refused
            exact ih others judgedOthers filled
        · cases refused

/-- One member is refused, or its name is counted. -/
theorem readMembers_member (stable : ∀ field ∈ shape, field.decoder.Stable) {m : String × List Char}
    (opens : Opens first s₀ s) (member : Member s m rest) (ends : Ends (rest.map some)) :
    (∃ f, readMembers shape first slots s₀ = .error f ∧
      ((∀ field ∈ shape, field.name = m.1 → Slots.isFilled shape slots m.1 = false →
        Judged (field.decoder.decode (m.2.map some))) → f = .mismatched)) ∨
      ∃ slots', readMembers shape first slots s₀ = readMembers shape false slots' (rest.map some) ∧
        ∀ n ∈ shape.map Field.name, (Slots.isFilled shape slots' n).toNat =
          (Slots.isFilled shape slots n).toNat + [m.1].count n := by
  obtain ⟨named, space, value⟩ := member
  obtain ⟨colon, read, behind⟩ := exists_readName opens named
  rename_i s₁ cs name
  cases filled : Slots.isFilled shape slots name with
  | true =>
      refine .inl ⟨.mismatched, ?_, fun _ => rfl⟩
      rw [readMembers_eq, read]
      exact if_pos filled
  | false =>
      cases accepted : Slots.fill shape slots name (s₁.map some) with
      | error f =>
          refine .inl ⟨f, ?_, fun judged => ?_⟩
          · rw [readMembers_eq, read]
            simp only [filled, behind, accepted]
            rfl
          · exact mismatched_of_fill stable (fun field mem same => judged field mem same rfl) space
              value ends accepted
      | ok p =>
          obtain ⟨slots', r⟩ := p
          obtain rfl := eq_of_skip space value ends (skip_of_fill stable accepted [])
          refine .inr ⟨slots', readMembers_of_name read filled behind accepted, ?_⟩
          intro n known
          rw [isFilled_of_fill accepted known, List.count_singleton]
          by_cases same : n = name
          · rw [same, filled, beq_self_eq_true]
            rfl
          · rw [beq_false_of_ne same, beq_false_of_ne (Ne.symm same)]
            rfl

/-- The first member of each missing field is decoded, or is of the wrong kind. -/
def JudgesFirst (shape : Shape) (slots : Slots shape) (ms : List (String × List Char)) : Prop :=
  ∀ field ∈ shape, Slots.isFilled shape slots field.name = false →
    ∀ cs ∈ ms.lookup field.name, Judged (field.decoder.decode (cs.map some))

theorem JudgesFirst.head {m : String × List Char} (h : JudgesFirst shape slots (m :: ms)) :
    ∀ field ∈ shape, field.name = m.1 → Slots.isFilled shape slots m.1 = false →
      Judged (field.decoder.decode (m.2.map some)) := by
  intro field mem same unfilled
  refine h field mem (same ▸ unfilled) m.2 ?_
  rw [List.lookup_cons, same, beq_self_eq_true]
  rfl

/-- A field that is still missing was not asked for by the member before. -/
theorem JudgesFirst.tail {m : String × List Char} (h : JudgesFirst shape slots (m :: ms))
    {slots' : Slots shape}
    (counted : ∀ n ∈ shape.map Field.name, (Slots.isFilled shape slots' n).toNat =
      (Slots.isFilled shape slots n).toNat + [m.1].count n) : JudgesFirst shape slots' ms := by
  intro field mem unfilled cs found
  have counted := counted field.name (List.mem_map_of_mem mem)
  rw [unfilled, Bool.toNat_false] at counted
  obtain ⟨empty, absent⟩ := Nat.add_eq_zero_iff.mp counted.symm
  have other : field.name ≠ m.1 := by
    simpa using List.count_eq_zero.mp absent
  refine h field mem (Bool.toNat_eq_zero.mp empty) cs ?_
  rw [List.lookup_cons, beq_false_of_ne other]
  exact found

/-- By induction on its members, an object is refused, or a slot has become as full as the name of
its field occurs. -/
theorem readMembers_entries (stable : ∀ field ∈ shape, field.decoder.Stable)
    (opens : Opens first s₀ s) (entries : Entries s ms rest) :
    (∃ f, readMembers shape first slots s₀ = .error f ∧
      (JudgesFirst shape slots ms → f = .mismatched)) ∨
      ∃ slots', readMembers shape first slots s₀ = .ok (slots', rest.map some) ∧
        ∀ n ∈ shape.map Field.name, (Slots.isFilled shape slots' n).toNat =
          (Slots.isFilled shape slots n).toNat + (ms.map Prod.fst).count n := by
  induction entries generalizing first s₀ slots with
  | last member after =>
      rcases readMembers_member stable opens member (ends_of_blank after (by decide)) with
        ⟨f, refused, fault⟩ | ⟨slots', step, counted⟩
      · exact .inl ⟨f, refused, fun judged => fault judged.head⟩
      · refine .inr ⟨slots', ?_, counted⟩
        rw [step, readMembers_of_brace (skipBlank_of_solid after (by decide))]
  | next member after more ih =>
      rcases readMembers_member stable opens member (ends_of_blank after (by decide)) with
        ⟨f, refused, fault⟩ | ⟨slots', step, counted⟩
      · exact .inl ⟨f, refused, fun judged => fault judged.head⟩
      · rcases ih (opens_of_comma (skipBlank_of_solid after (by decide))) with
          ⟨f, refused, fault⟩ | ⟨slots'', finish, counted'⟩
        · exact .inl ⟨f, step.trans refused, fun judged => fault (judged.tail counted)⟩
        · refine .inr ⟨slots'', step.trans finish, ?_⟩
          intro n mem
          rw [counted' n mem, counted n mem, List.map_cons, Nat.add_assoc, ← List.count_append,
            List.singleton_append]

end Members

/-! ### Whole objects -/

section Objects

variable {shape : Shape} {values : Values shape} {slots : Slots shape} {name : String}
  {ms : List (String × List Char)} {text : List Char} {s rest : Source}

theorem Slots.isFilled_none (shape : Shape) (name : String) :
    Slots.isFilled shape (Slots.none shape) name = false := by
  induction shape with
  | nil => rfl
  | cons field shape ih =>
      rw [Slots.none, Slots.isFilled, ih]
      split
      · rfl
      · rfl

/-- Without a value for one of the fields there is no record. -/
theorem Slots.values?_of_missing (known : name ∈ shape.map Field.name)
    (missing : Slots.isFilled shape slots name = false) :
    Slots.values? shape slots = Option.none := by
  induction shape with
  | nil => cases known
  | cons field shape ih =>
      obtain ⟨slot, slots⟩ := slots
      rw [Slots.isFilled] at missing
      split at missing
      · cases slot with
        | none => rfl
        | some value => cases missing
      · next other =>
          rw [Slots.values?, ih (List.mem_of_ne_of_mem (Ne.symm other) known) missing]
          cases slot with
          | none => rfl
          | some value => rfl

theorem Decoder.decode_of_members (brace : skipBlank (text.map some) = some '\x7b' :: s)
    (members : readMembers shape true (Slots.none shape) s = .ok (slots, rest))
    (filled : Slots.values? shape slots = some values) (after : skipBlank rest = []) :
    (record shape).decode (text.map some) = .ok values := by
  have read : (record shape).read (text.map some) = .ok (values, rest) := by
    simp only [record, brace, members, filled]
  exact decode_of_read read after

theorem Decoder.decode_of_missing (brace : skipBlank (text.map some) = some '\x7b' :: s)
    (members : readMembers shape true (Slots.none shape) s = .ok (slots, rest))
    (missing : Slots.values? shape slots = none) :
    (record shape).decode (text.map some) = .error .mismatched := by
  refine decode_eq_mismatched_iff.mpr ?_
  simp only [record, brace, members, missing]

theorem Decoder.decode_of_refused (brace : skipBlank (text.map some) = some '\x7b' :: s) {f : Fault}
    (refused : readMembers shape true (Slots.none shape) s = .error f) :
    (record shape).decode (text.map some) = .error f := by
  simp only [decode, record, brace, refused]

/-- An object is the record whose values its members have, if there is one member for each field.
Other members may stand anywhere. -/
theorem Decoder.decode_of_fits (stable : ∀ field ∈ shape, field.decoder.Stable)
    (distinct : (shape.map Field.name).Nodup) (object : Object text ms)
    (fits : ∀ m ∈ ms, Fits Decoder.ofChars shape values m)
    (single : ∀ name ∈ shape.map Field.name, (ms.map Prod.fst).count name = 1) :
    (record shape).decode (text.map some) = .ok values := by
  have filled := Slots.values?_found_of_single values single
  cases object with
  | none brace close after =>
      refine decode_of_members (skipBlank_of_solid brace (by decide)) ?_ filled
        (skipBlank_of_blank after)
      rw [← Slots.found_nil values]
      exact readMembers_of_brace (skipBlank_of_solid close (by decide))
  | some brace entries after =>
      refine decode_of_members (skipBlank_of_solid brace (by decide)) ?_ filled
        (skipBlank_of_blank after)
      rw [← Slots.found_nil values, readMembers_of_fits stable distinct fits
        (count_reverse_le_one single) (opens_first _) entries, List.append_nil]

/-- An object is no record if a field has no member, or more than one. It is of the wrong kind,
unless the text of a value is at fault. -/
theorem Decoder.decode_of_uneven (stable : ∀ field ∈ shape, field.decoder.Stable)
    (object : Object text ms)
    (uneven : ∃ field ∈ shape, (ms.map Prod.fst).count field.name ≠ 1) :
    ∃ f, (record shape).decode (text.map some) = .error f ∧
      ((∀ field ∈ shape, ∀ cs ∈ ms.lookup field.name,
        Judged (field.decoder.decode (cs.map some))) → f = .mismatched) := by
  obtain ⟨field, mem, uneven⟩ := uneven
  have known : field.name ∈ shape.map Field.name := List.mem_map_of_mem mem
  cases object with
  | none brace close after =>
      refine ⟨.mismatched, ?_, fun _ => rfl⟩
      exact decode_of_missing (skipBlank_of_solid brace (by decide))
        (readMembers_of_brace (skipBlank_of_solid close (by decide)))
        (Slots.values?_of_missing known (Slots.isFilled_none shape field.name))
  | some brace entries after =>
      have brace := skipBlank_of_solid brace (by decide)
      rcases readMembers_entries stable (opens_first _) entries with
        ⟨f, refused, fault⟩ | ⟨slots, members, counted⟩
      · exact ⟨f, decode_of_refused brace refused, fun judged =>
          fault fun field mem _ => judged field mem⟩
      · refine ⟨.mismatched, decode_of_missing brace members ?_, fun _ => rfl⟩
        -- A slot holds one value at most, so the name that is not there once is not there.
        have counted := counted field.name known
        have full := Bool.toNat_le (Slots.isFilled shape slots field.name)
        rw [Slots.isFilled_none, Bool.toNat_false, Nat.zero_add] at counted
        exact Slots.values?_of_missing known (Bool.toNat_eq_zero.mp (by omega))

end Objects

end Reminders.Json
