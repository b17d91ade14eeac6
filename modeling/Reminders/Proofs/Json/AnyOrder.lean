import Mathlib.Data.List.Nodup
import Reminders.Proofs.Json.Objects
import Reminders.Proofs.Json.Rendering
import Reminders.Proofs.Json.Yields

/-!
# Members in any order

A text may state an object with the members in another order, with others between them, with blanks
and with strings spelled in other ways (`Grammar.States`). Whatever states the object that a record
is written as is decoded as that record, and an object in which a field has no member, or more than
one, is refused: such a decoder goes by names (`Decoder.ByName`). It also undoes the encoding of
records (`Decoder.Undoes`). An encoding may tell some records apart less well than they differ; they
are then decoded as what they settle to, which is written as they are.

To do both it is enough that the fields have different names and are stable, and that each is
recognized by itself (`Shape.Describes`).
-/

namespace Reminders.Json

open Grammar
open Source (skipBlank)

namespace Grammar

/-- A text states a value that is made of strings and objects. A string may be spelled in any way.
An object has one member for each member of the value, in any order, and perhaps others whose names
are not among theirs. -/
inductive States : Value → List Char → Prop where
  | text {s cs : List Char} (quoted : Quoted s cs []) : States (.text (String.ofList cs)) ('"' :: s)
  | object {ms : List (String × Value)} {text : List Char}
      {all own others : List (String × List Char)} (object : Object text all)
      (order : all.Perm (own ++ others)) (names : own.map Prod.fst = ms.map Prod.fst)
      (stated : List.Forall₂ (fun m m' => States m.2 m'.2) ms own)
      (foreign : ∀ m ∈ others, m.1 ∉ ms.map Prod.fst) : States (.object ms) text

end Grammar

/-! ### Objects as they are written -/

namespace Grammar

variable {s s' rest cs : List Char}

theorem Quoted.closes (h : Quoted s cs rest) : Closes s rest := by
  induction h with
  | close => exact .quote
  | plain quote backslash visible more ih => exact .plain quote backslash visible ih
  | short escape more ih => exact .short escape ih
  | unit digits more ih => exact .unit digits ih
  | pair first second isHigh isLow value more ih => exact .unit first (.unit second ih)

/-- What holds the members of an object is well-formed. -/
theorem Entries.forms {ms : List (String × List Char)} (h : Entries s ms rest) :
    Forms .members s rest := by
  induction h with
  | last member after =>
      obtain ⟨⟨before, quoted, colon⟩, space, value⟩ := member
      exact .lastMember before quoted.closes colon space value after
  | next member after more ih =>
      obtain ⟨⟨before, quoted, colon⟩, space, value⟩ := member
      exact .nextMember before quoted.closes colon space value after ih

mutual

/-- What spells a tree is well-formed. -/
theorem Spells.forms {s rest : List Char} {t : Tree} : Spells s t rest → Forms .value s rest
  | .null => .word (w := ['n', 'u', 'l', 'l']) (by decide)
  | .true => .word (w := ['t', 'r', 'u', 'e']) (by decide)
  | .false => .word (w := ['f', 'a', 'l', 's', 'e']) (by decide)
  | .number numeral split => split ▸ .number numeral
  | .text quoted => .string quoted.closes
  | .noElements close => .noElements close
  | .list elements => .list elements.forms
  | .noMembers close => .noMembers close
  | .object members => .object members.forms

theorem Elements.forms {s rest : List Char} {ts : List Tree} :
    Elements s ts rest → Forms .elements s rest
  | .last before element after => .lastElement before element.forms after
  | .cons before element after more => .nextElement before element.forms after more.forms

theorem Members.forms {s rest : List Char} {ms : List (String × Tree)} :
    Members s ms rest → Forms .members s rest
  | .last (.mk open_ name colon) before value after =>
      .lastMember open_ name.closes colon before value.forms after
  | .cons (.mk open_ name colon) before value after more =>
      .nextMember open_ name.closes colon before value.forms after more.forms

end

end Grammar

namespace Value

theorem forms_chars (v : Value) (rest : List Char) : Forms .value (v.chars ++ rest) rest :=
  (v.readsBack.spells_iff.mpr ⟨rfl, rfl⟩).forms

theorem member_chars (m : String × Value) (rest : List Char) :
    Member (string m.1 ++ ':' :: (m.2.chars ++ rest)) (m.1, m.2.chars) rest :=
  .mk (name_string_iff.mpr ⟨rfl, rfl⟩) .none (m.2.forms_chars rest)

/-- The members of an object, told by the texts of their values. -/
def texts (ms : List (String × Value)) : List (String × List Char) :=
  ms.map fun m => (m.1, m.2.chars)

theorem entries_members (m : String × Value) (ms : List (String × Value)) (rest : List Char) :
    Entries (members (m :: ms) ++ '\x7d' :: rest) (texts (m :: ms)) rest := by
  induction ms generalizing m with
  | nil =>
      have only : members [m] ++ '\x7d' :: rest =
          string m.1 ++ ':' :: (m.2.chars ++ '\x7d' :: rest) := List.append_assoc ..
      rw [only]
      exact .last (member_chars m _) .none
  | cons m' ms ih =>
      have first : members (m :: m' :: ms) ++ '\x7d' :: rest =
          string m.1 ++ ':' :: (m.2.chars ++ ',' :: (members (m' :: ms) ++ '\x7d' :: rest)) := by
        simp [members]
      rw [first]
      exact .next (member_chars m _) .none (ih m')

/-- An object that is written has the members that it is written from. -/
theorem object_chars (ms : List (String × Value)) : Object (object ms).chars (texts ms) := by
  cases ms with
  | nil => exact .none .none .none .none
  | cons m ms => exact .some .none (entries_members m ms []) .none

theorem states_text (s : String) : States (.text s) (text s).chars := by
  have states := States.text (quoted_flatMap_escape s.toList [])
  rwa [String.ofList_toList] at states

/-- What is written states an object that has some of its members, in any order. -/
theorem states_of_perm {ms ms' others : List (String × Value)} (order : ms'.Perm (ms ++ others))
    (stated : ∀ m ∈ ms, States m.2 m.2.chars) (foreign : ∀ m ∈ others, m.1 ∉ ms.map Prod.fst) :
    States (.object ms) (object ms').chars := by
  have order : (texts ms').Perm (texts ms ++ texts others) := by
    rw [texts, texts, texts, ← List.map_append]
    exact order.map _
  have names : (texts ms).map Prod.fst = ms.map Prod.fst := by
    rw [texts, List.map_map]
    rfl
  have stated : List.Forall₂ (fun m m' => States m.2 m'.2) ms (texts ms) := by
    rw [texts, List.forall₂_map_right_iff, List.forall₂_same]
    exact stated
  refine .object (object_chars ms') order names stated ?_
  intro m mem
  obtain ⟨m', mem', rfl⟩ := List.mem_map.mp mem
  exact foreign m' mem'

end Value

/-! ### Recognizing values -/

namespace Decoder

variable {α β : Type} {d : Decoder α} {json : Value} {a : α}

/-- A value is decoded as another one, from whatever text states it and without a text. Its own text
is one of those. -/
structure Recognizes (d : Decoder α) (json : Value) (a : α) : Prop where
  states_chars : States json json.chars
  ofChars_eq : ∀ cs, States json cs → d.ofChars cs = .ok a
  ofValue_eq : d.ofValue json = .ok a

theorem recognizes_text (s : String) : text.Recognizes (.text s) s where
  states_chars := Value.states_text s
  ofChars_eq cs states := by
    cases states with
    | text quoted => exact decode_of_read (readString_of_quoted quoted []) rfl
  ofValue_eq := rfl

theorem Recognizes.filterMap {f : α → Option β} {b : β} (h : d.Recognizes json a)
    (further : f a = some b) : (d.filterMap f).Recognizes json b where
  states_chars := h.states_chars
  ofChars_eq cs states := by
    obtain ⟨rest, read, nothing⟩ := exists_read_of_decode (h.ofChars_eq cs states)
    have read : (d.filterMap f).read (cs.map some) = .ok (b, rest) := by
      simp only [Decoder.filterMap, read, further]
    exact decode_of_read read nothing
  ofValue_eq := by simp only [Decoder.filterMap, h.ofValue_eq, further]

theorem Recognizes.map (h : d.Recognizes json a) (f : α → β) : (d.map f).Recognizes json (f a) :=
  h.filterMap rfl

theorem Recognizes.decode_render (h : d.Recognizes json a) :
    d.decode (.ofString json.render) = .ok a := by
  rw [Source.ofString, Value.render, String.toList_ofList]
  exact h.ofChars_eq json.chars h.states_chars

theorem Recognizes.judged (h : d.Recognizes json a) : Judged (d.ofChars json.chars) := by
  rw [h.ofChars_eq json.chars h.states_chars]
  trivial

theorem decode_map (f : α → β) (s : Source) : (d.map f).decode s = (d.decode s).map f := by
  simp only [decode, Decoder.map, Decoder.filterMap]
  cases d.read s with
  | error e => rfl
  | ok p =>
      simp only
      split
      · rfl
      · rfl

theorem ofValue_map (f : α → β) (json : Value) :
    (d.map f).ofValue json = (d.ofValue json).map f := by
  simp only [Decoder.map, Decoder.filterMap]
  cases d.ofValue json <;> rfl

end Decoder

/-- The members of an object that have the values of a record, in the order of its fields. -/
inductive Stated : (shape : Shape) → Values shape → List (String × Value) → Prop where
  | nil : Stated [] () []
  | cons {shape : Shape} {values : Values shape} {ms : List (String × Value)} (field : Field)
      {value : field.Value} {json : Value} (known : field.decoder.Recognizes json value)
      (others : Stated shape values ms) :
      Stated (field :: shape) (value, values) ((field.name, json) :: ms)

namespace Stated

variable {shape : Shape} {values : Values shape} {ms ms' : List (String × Value)} {X : Type}
  {decode : {α : Type} → Decoder α → X → Except Fault α}

theorem names (h : Stated shape values ms) : ms.map Prod.fst = shape.map Field.name := by
  induction h with
  | nil => rfl
  | cons field known others ih => rw [List.map_cons, List.map_cons, ih]

theorem states_chars (h : Stated shape values ms) : ∀ m ∈ ms, States m.2 m.2.chars := by
  induction h with
  | nil =>
      intro m mem
      cases mem
  | cons field known others ih => exact List.forall_mem_cons.mpr ⟨known.states_chars, ih⟩

theorem fits_of_not_mem {m : String × X} (h : m.1 ∉ shape.map Field.name) :
    Fits decode shape values m := by
  induction shape with
  | nil => trivial
  | cons field shape ih =>
      obtain ⟨value, values⟩ := values
      obtain ⟨other, others⟩ := List.ne_and_not_mem_of_not_mem_cons h
      rw [Fits, if_neg other.symm]
      exact ih others

/-- What stands for the members of a record fits it, if what stands for a value is decoded as
whatever the value is recognized as. -/
theorem fits {S : Value → X → Prop}
    (sound : ∀ {α : Type} {d : Decoder α} {json : Value} {a : α} {x : X}, d.Recognizes json a →
      S json x → decode d x = .ok a)
    (h : Stated shape values ms) (distinct : (shape.map Field.name).Nodup)
    {own : List (String × X)} (names : own.map Prod.fst = ms.map Prod.fst)
    (stated : List.Forall₂ (fun m m' => S m.2 m'.2) ms own) :
    ∀ m ∈ own, Fits decode shape values m := by
  induction h generalizing own with
  | nil =>
      intro m mem
      cases stated
      cases mem
  | @cons shape values ms field value json known others ih =>
      obtain ⟨single, distinct⟩ := List.nodup_cons.mp distinct
      obtain _ | ⟨stands, stated⟩ := stated
      obtain ⟨same, names⟩ := List.cons.inj names
      intro m mem
      rw [Fits]
      rcases List.mem_cons.mp mem with rfl | mem
      · rw [if_pos same.symm]
        exact sound known stands
      · have other : field.name ≠ m.1 := by
          intro same
          rw [same, ← others.names, ← names] at single
          exact single (List.mem_map_of_mem mem)
        rw [if_neg other]
        exact ih distinct names stated m mem

variable (h : Stated shape values ms) (distinct : (shape.map Field.name).Nodup)

include h distinct

/-- A value is a record whatever the order of its members. -/
theorem ofValue_of_perm (order : ms'.Perm ms) :
    (Decoder.record shape).ofValue (.object ms') = .ok values := by
  refine Decoder.ofValue_of_fits distinct ?_ ?_
  · intro m mem
    exact h.fits (S := Eq) (fun known same => same ▸ known.ofValue_eq) distinct rfl
      (List.forall₂_same.mpr fun _ _ => rfl) m (order.mem_iff.mp mem)
  · intro name known
    rw [(order.map Prod.fst).count_eq, h.names, List.count_eq_one_of_mem distinct known]

/-- A record is recognized by the names of its members. -/
theorem recognizes (stable : ∀ field ∈ shape, field.decoder.Stable) :
    (Decoder.record shape).Recognizes (.object ms) values where
  states_chars := by
    have whole : ms.Perm (ms ++ []) := by rw [List.append_nil]
    refine Value.states_of_perm whole h.states_chars ?_
    intro m mem
    cases mem
  ofChars_eq cs states := by
    cases states with
    | @object _ _ all own others object order names stated foreign =>
        rw [h.names] at foreign
        refine Decoder.decode_of_fits stable distinct object ?_ ?_
        · intro m mem
          rcases List.mem_append.mp (order.mem_iff.mp mem) with mem | mem
          · exact h.fits (S := States) (fun known => known.ofChars_eq _) distinct names stated m mem
          · exact fits_of_not_mem (foreign m mem)
        · intro name known
          have absent : name ∉ others.map Prod.fst := by
            intro mem
            obtain ⟨m, mem', rfl⟩ := List.mem_map.mp mem
            exact foreign m mem' known
          rw [(order.map Prod.fst).count_eq, List.map_append, List.count_append, names, h.names,
            List.count_eq_one_of_mem distinct known, List.count_eq_zero.mpr absent]
  ofValue_eq := h.ofValue_of_perm distinct (.refl _)

end Stated

/-! ### Records that go by names -/

namespace Decoder

variable {α : Type}

/-- What a source comes to when it is decoded and what it stands for is encoded. -/
def recode (d : Decoder α) (write : α → Value) (s : Source) : Except Fault String :=
  (d.decode s).map fun a => (write a).render

/-- A decoder undoes an encoding, up to what records settle to. The encoding does not tell this from
the record. Sources may spell a record in many ways, but once it has been decoded and encoded both
the record and its text stay as they are. -/
structure Undoes (d : Decoder α) (write : α → Value) (settle : α → α) : Prop where
  decode_render : ∀ a, d.decode (.ofString (write a).render) = .ok (settle a)
  decode_value : ∀ a ms, write a = .object ms → ∀ ms', ms'.Perm ms →
    d.ofValue (.object ms') = .ok (settle a)
  write_settle : ∀ a, write (settle a) = write a
  decode_again : ∀ s a, d.decode s = .ok a → d.decode (.ofString (write a).render) = .ok a
  recode_again : ∀ s t, d.recode write s = .ok t → d.recode write (.ofString t) = .ok t

/-- A decoder of records goes by the names of members. It decodes a record, as it settles, from
every text that states it, and refuses an object in which a field has no member, or more than one.
Such an object is of the wrong kind if for every field the first member is decoded or is itself of
the wrong kind; if not, the text of a value can be at fault before. -/
structure ByName (d : Decoder α) (shape : Shape) (write : α → Value) (settle : α → α) :
    Prop where
  decode_of_states : ∀ (a : α) (text : String), States (write a) text.toList →
    d.decode (.ofString text) = .ok (settle a)
  refuses_uneven : ∀ (text : String) (ms : List (String × List Char)), Object text.toList ms →
    (∃ field ∈ shape, (ms.map Prod.fst).count field.name ≠ 1) →
    ∃ f, d.decode (.ofString text) = .error f ∧
      ((∀ field ∈ shape, ∀ cs ∈ ms.lookup field.name,
        Judged (field.decoder.decode (cs.map some))) → f = .mismatched)

end Decoder

/-- A shape describes a kind of records that are written as objects. The values of the fields make
up a record, and they are recognized in the members that it is written with, as those of the record
that it settles to. Records made of values that are decoded are settled. -/
structure Shape.Describes {α : Type} (shape : Shape) (ofValues : Values shape → α)
    (write : α → Value) (settle : α → α) : Prop where
  distinct : (shape.map Field.name).Nodup
  stable : ∀ field ∈ shape, field.decoder.Stable
  stated : ∀ a, ∃ values ms, ofValues values = settle a ∧ write a = .object ms ∧
    Stated shape values ms
  write_settle : ∀ a, write (settle a) = write a
  settled : ∀ values, Values.Yielded shape values → settle (ofValues values) = ofValues values

namespace Shape.Describes

variable {α : Type} {shape : Shape} {ofValues : Values shape → α} {write : α → Value}
  {settle : α → α} (h : shape.Describes ofValues write settle)

include h

theorem stable_map : ((Decoder.record shape).map ofValues).Stable :=
  (Decoder.stable_record h.stable).map ofValues

theorem recognizes (a : α) :
    ((Decoder.record shape).map ofValues).Recognizes (write a) (settle a) := by
  obtain ⟨values, ms, settles, json, stated⟩ := h.stated a
  rw [← settles, json]
  exact (stated.recognizes h.distinct h.stable).map ofValues

/-- Records that are decoded are settled. -/
theorem settle_of_yields {a : α} (yields : ((Decoder.record shape).map ofValues).Yields a) :
    settle a = a := by
  obtain ⟨values, yielded, rfl⟩ := Decoder.yields_map yields
  exact h.settled values (Decoder.yielded_of_record yielded)

theorem decode_again {s : Source} {a : α}
    (decoded : ((Decoder.record shape).map ofValues).decode s = .ok a) :
    ((Decoder.record shape).map ofValues).decode (.ofString (write a).render) = .ok a := by
  rw [(h.recognizes a).decode_render, h.settle_of_yields (Decoder.yields_of_decode decoded)]

theorem undoes : ((Decoder.record shape).map ofValues).Undoes write settle where
  decode_render a := (h.recognizes a).decode_render
  decode_value a ms json ms' order := by
    obtain ⟨values, ms₀, settles, json₀, stated⟩ := h.stated a
    obtain rfl : ms = ms₀ := Value.object.inj (json.symm.trans json₀)
    rw [Decoder.ofValue_map, stated.ofValue_of_perm h.distinct order, ← settles]
    rfl
  write_settle := h.write_settle
  decode_again s a decoded := h.decode_again decoded
  recode_again s t recoded := by
    rw [Decoder.recode] at recoded
    cases decoded : ((Decoder.record shape).map ofValues).decode s with
    | error f =>
        rw [decoded] at recoded
        cases recoded
    | ok a =>
        rw [decoded] at recoded
        cases recoded
        rw [Decoder.recode, h.decode_again decoded]
        rfl

theorem byName : ((Decoder.record shape).map ofValues).ByName shape write settle where
  decode_of_states a text states := (h.recognizes a).ofChars_eq text.toList states
  refuses_uneven text ms object uneven := by
    obtain ⟨f, refused, fault⟩ := Decoder.decode_of_uneven h.stable object uneven
    refine ⟨f, ?_, fault⟩
    rw [Decoder.decode_map, Source.ofString, refused]
    rfl

end Shape.Describes

end Reminders.Json
