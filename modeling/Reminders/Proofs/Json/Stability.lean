import Reminders.Json.Decoder
import Reminders.Proofs.Json.OnePass

/-!
# Stable decoders

A decoder is stable if it reads in one pass (`Decoder.Stable`): a value is judged by its own text,
without the blanks before it or the text behind it, and whatever is read is passed over up to the
same place when it is skipped. Strings are stable, and a record is if its fields are
(`Decoder.stable_record`), so this holds of records inside records, too.
-/

namespace Reminders.Json

open Source (Ends skipBlank)

variable {α β : Type}

section Agreement

variable {read : List Char} {sound first : Bool} {frames : List Frame} {s rest : Source}

theorem skipString_of_readEscape {c : Char} (h : readEscape s = .ok (c, rest)) :
    skipString (some '\\' :: s) = skipString rest := by
  revert h
  fun_cases readEscape s with
  | case1 | case2 | case3 | case7 | case8 =>
      intro h
      cases h
  | case4 s n rest' first notLow isHigh =>
      rw [skipString_unit first]
      fun_cases readLowHalf n rest' with
      | case1 | case2 | case3 | case5 | case6 =>
          intro h
          cases h
      | case4 s low rest' second isLow =>
          intro h
          obtain rfl := rest_eq h
          exact skipString_unit second
  | case5 s n rest' unit notLow notHigh =>
      intro h
      obtain rfl := rest_eq h
      exact skipString_unit unit
  | case6 c s other d short =>
      rintro ⟨⟩
      rw [skipString]
      · rw [short]
        rfl
      · exact other

theorem skipString_of_readString {x : String} (h : readString read sound s = .ok (x, rest)) :
    skipString s = .ok rest := by
  fun_induction readString read sound s with
  | case1 | case4 | case5 | case7 => cases h
  | case2 read sound s ih => rw [skipString, ih h]
  | case3 read s =>
      cases h
      rw [skipString]
  | case6 read sound s c s' escape ih => rw [skipString_of_readEscape escape, ih h]
  | case8 read sound c s quote backslash visible ih =>
      rw [skipString_plain quote backslash visible, ih h]

/-- What is skipped inside some brackets is skipped inside more of them. -/
theorem skip_inside {place : Place} {inner : List Frame} (h : skip place inner s = .ok rest)
    (outer : List Frame) : skip place (inner ++ outer) s = skip .behind outer rest := by
  fun_induction skip place inner s with
  | case1 s =>
      cases h
      rfl
  | case2 | case4 | case7 | case8 | case9 | case12 | case14 | case16 => cases h
  | case3 s inner rest comma ih =>
      rw [List.cons_append, skip_behind, comma]
      exact ih h
  | case5 s inner rest comma rest' name ih =>
      rw [List.cons_append, skip_behind, comma]
      simp only [name]
      exact ih h
  | case6 s frame inner rest other close ih =>
      rw [List.cons_append, skip_close close]
      exact ih h
  | case10 s inner rest bracket rest' close ih =>
      rw [skip_before, bracket]
      simp only [close]
      exact ih h
  | case11 s inner rest bracket more other ih =>
      obtain ⟨item, s', next, open_⟩ := exists_cons_of_open more other
      rw [skip_list bracket next open_]
      exact ih h
  | case13 s inner rest brace rest' close ih =>
      rw [skip_before, brace]
      simp only [close]
      exact ih h
  | case15 s inner rest brace rest' name more other ih =>
      obtain ⟨item, s', next, open_⟩ := exists_cons_of_open more other
      rw [skip_object brace next open_, name]
      exact ih h
  | case17 s inner item rest bracket brace begins rest' scalar ih =>
      rw [skip_scalar begins bracket brace, scalar]
      exact ih h

theorem skipBlank_of_readName (h : readName first s = .ok (none, rest)) :
    skipBlank s = some '\x7d' :: rest := by
  have quoted {s : Source} :
      ((readString [] true s).map fun p => (some p.1, p.2)) ≠ .ok (none, rest) := by
    cases readString [] true s with
    | error f =>
        intro h
        cases h
    | ok p =>
        intro h
        cases h
  revert h
  fun_cases readName first s with
  | case1 | case4 | case5 | case6 | case8 | case9 =>
      intro h
      cases h
  | case2 rest close =>
      rintro ⟨⟩
      exact close
  | case3 | case7 => exact fun h => absurd h quoted

/-- The character that opens a bracket. -/
def Frame.opener : Frame → Char
  | list => '['
  | object => '\x7b'

/-- Skipping from inside a bracket, where nothing has been read yet or behind the first of what is
in it. -/
def skipInside (frame : Frame) (first : Bool) (frames : List Frame) (s : Source) :
    Except Fault Source :=
  if first then skip .before frames (some frame.opener :: s) else skip .behind (frame :: frames) s

theorem skipInside_of_close {frame : Frame} (close : skipBlank s = some frame.close :: rest) :
    skipInside frame first frames s = skip .behind frames rest := by
  cases first with
  | false => exact skip_close close
  | true =>
      cases frame with
      | list =>
          have close : skipBlank s = some ']' :: rest := close
          have begins : skipBlank (some '[' :: s) = some '[' :: s := rfl
          rw [skipInside, if_pos rfl, skip_before, Frame.opener, begins]
          simp only [close]
      | object =>
          have close : skipBlank s = some '\x7d' :: rest := close
          have begins : skipBlank (some '\x7b' :: s) = some '\x7b' :: s := rfl
          rw [skipInside, if_pos rfl, skip_before, Frame.opener, begins]
          simp only [close]

theorem skipInside_of_name {name : String} {colon value : Source}
    (named : readName first s = .ok (some name, colon)) (behind : skipColon colon = .ok value) :
    skipInside .object first frames s = skip .before (.object :: frames) value := by
  have key {s : Source} (quoted : ((readString [] true s).map fun p => (some p.1, p.2)) =
      .ok (some name, colon)) : skipString s = .ok colon := by
    cases string : readString [] true s with
    | error f =>
        rw [string] at quoted
        cases quoted
    | ok p =>
        rw [string] at quoted
        cases quoted
        exact skipString_of_readString string
  revert named
  fun_cases readName first s with
  | case1 | case2 | case4 | case5 | case6 | case8 | case9 =>
      intro h
      cases h
  | case3 rest quote isFirst =>
      intro quoted
      subst isFirst
      have passed : skipName s = .ok value := by simp only [skipName, quote, key quoted, behind]
      have begins : skipBlank (some '\x7b' :: s) = some '\x7b' :: s := rfl
      rw [skipInside, if_pos rfl, Frame.opener, skip_object begins quote (by decide), passed]
  | case7 rest comma notFirst rest' quote =>
      intro quoted
      have passed : skipName rest = .ok value := by simp only [skipName, quote, key quoted, behind]
      rw [skipInside, if_neg notFirst, skip_behind, comma]
      simp only [passed]

theorem skipInside_of_element {value : Source} (h : skipToElement first s = .ok value) :
    skipInside .list first frames s = skip .before (.list :: frames) value := by
  revert h
  fun_cases skipToElement first s with
  | case1 | case2 | case4 | case5 | case8 =>
      intro h
      cases h
  | case3 rest comma isFirst =>
      rintro ⟨⟩
      subst isFirst
      have begins : skipBlank (some '[' :: s) = some '[' :: s := rfl
      rw [skipInside, if_pos rfl, Frame.opener, skip_list begins comma (by decide)]
      exact skip_before_congr comma
  | case6 rest comma notFirst more other =>
      rintro ⟨⟩
      rw [skipInside, if_neg notFirst, skip_behind, comma]
      exact skip_before_congr (skipBlank_skipBlank rest).symm
  | case7 isFirst more other comma =>
      rintro ⟨⟩
      subst isFirst
      obtain ⟨item, rest, next, open_⟩ := exists_cons_of_open more other
      have begins : skipBlank (some '[' :: s) = some '[' :: s := rfl
      rw [skipInside, if_pos rfl, Frame.opener, skip_list begins next open_]
      exact skip_before_congr (skipBlank_skipBlank s).symm

end Agreement

section Members

variable {shape : Shape} {slots : Slots shape} {first : Bool} {name : String} {s t : Source}

theorem readName_append {r : Except Fault (Option String × Source)} (h : readName first s = r)
    (judged : Judged r) (t : Source) : readName first (s ++ t) = r.map (extend t) := by
  have key {s : Source} (judged : Judged ((readString [] true s).map fun p => (some p.1, p.2))) :
      ((readString [] true (s ++ t)).map fun p => (some p.1, p.2)) =
        ((readString [] true s).map fun p => (some p.1, p.2)).map (extend t) := by
    cases string : readString [] true s with
    | error f =>
        rw [string] at judged
        rw [readString_append string judged t]
        rfl
    | ok p =>
        rw [readString_append string trivial t]
        rfl
  subst h
  revert judged
  fun_cases readName first s with
  | case1 | case4 | case5 | case6 | case8 | case9 =>
      intro judged
      cases judged
  | case2 rest close =>
      intro judged
      simp only [readName, skipBlank_append close]
      rfl
  | case3 rest quote isFirst =>
      intro judged
      simp only [readName, skipBlank_append quote, if_pos isFirst]
      exact key judged
  | case7 rest comma notFirst rest' quote =>
      intro judged
      simp only [readName, skipBlank_append comma, if_neg notFirst, skipBlank_append quote]
      exact key judged

/-- What the next member comes to, told without the proof that reading ends. -/
theorem readMembers_eq (shape : Shape) (first : Bool) (slots : Slots shape) (s : Source) :
    readMembers shape first slots s =
      match readName first s with
      | .error f => .error f
      | .ok (none, rest) => .ok (slots, rest)
      | .ok (some name, rest) =>
          if Slots.isFilled shape slots name then .error .mismatched
          else
            match skipColon rest with
            | .error f => .error f
            | .ok rest' =>
                match Slots.fill shape slots name rest' with
                | .error f => .error f
                | .ok (slots', rest'') => readMembers shape false slots' rest'' := by
  rw [readMembers]
  split
  · next fails => simp only [fails]
  · next closes => simp only [closes]
  · next named =>
      simp only [named]
      split
      · rfl
      · split
        · next fails => simp only [fails]
        · next colon =>
            simp only [colon]
            split
            · next fails => simp only [fails]
            · next filled => simp only [filled]

theorem skipToElement_append {r : Except Fault Source} (h : skipToElement first s = r)
    (judged : Judged r) (t : Source) : skipToElement first (s ++ t) = r.map (· ++ t) := by
  subst h
  revert judged
  fun_cases skipToElement first s with
  | case1 | case4 | case5 | case8 =>
      intro judged
      cases judged
  | case2 rest close =>
      intro judged
      simp only [skipToElement, skipBlank_append close]
      rfl
  | case3 rest comma isFirst =>
      intro judged
      simp only [skipToElement, skipBlank_append comma, if_pos isFirst]
      rfl
  | case6 rest comma notFirst more other =>
      intro judged
      obtain ⟨item, rest', next⟩ := List.exists_cons_of_ne_nil more
      simp only [skipToElement, skipBlank_append comma, if_neg notFirst, skipBlank_append next]
      split
      · next h => cases h
      · next h =>
          cases h
          exact absurd next (other _)
      · rw [next]
        rfl
  | case7 isFirst more other comma =>
      intro judged
      obtain ⟨item, rest, next⟩ := List.exists_cons_of_ne_nil more
      simp only [skipToElement, skipBlank_append next]
      split
      · next h => cases h
      · next h =>
          cases h
          exact absurd next (other _)
      · next h =>
          cases h
          exact absurd next (comma _)
      · rw [if_pos isFirst, next]
        rfl

/-- Reading goes in one pass: neither blanks before a value nor what stands behind it have a say in
how it is judged, and it ends where skipping does. -/
structure Decoder.Stable (d : Decoder α) : Prop where
  read_skipBlank : ∀ s, d.read (skipBlank s) = d.read s
  read_append : ∀ {s t : Source} {r : Except Fault (α × Source)}, d.read s = r → Judged r → Ends t →
    d.read (s ++ t) = r.map (extend t)
  skip_of_read : ∀ {s rest : Source} {a : α}, d.read s = .ok (a, rest) →
    ∀ frames, skip .before frames s = skip .behind frames rest

theorem fill_append (stable : ∀ field ∈ shape, field.decoder.Stable)
    {r : Except Fault (Slots shape × Source)} (h : Slots.fill shape slots name s = r)
    (judged : Judged r) (ends : Ends t) :
    Slots.fill shape slots name (s ++ t) = r.map (extend t) := by
  subst h
  induction shape with
  | nil =>
      rw [Slots.fill] at judged ⊢
      cases passed : skipValue s with
      | error f =>
          rw [passed] at judged
          rw [Slots.fill, passed, skipValue, skip_append passed judged ends]
          rfl
      | ok rest =>
          rw [Slots.fill, passed, skipValue, skip_append passed trivial ends]
          rfl
  | cons field shape ih =>
      obtain ⟨slot, slots⟩ := slots
      obtain ⟨stable, others⟩ := List.forall_mem_cons.mp stable
      rw [Slots.fill] at judged
      rw [Slots.fill, Slots.fill]
      split
      · next same =>
          rw [if_pos same] at judged
          cases accepted : field.decoder.read s with
          | error f =>
              rw [accepted] at judged
              rw [stable.read_append accepted judged ends]
              rfl
          | ok p =>
              rw [stable.read_append accepted trivial ends]
              rfl
      · next other =>
          rw [if_neg other] at judged
          cases filled : Slots.fill shape slots name s with
          | error f =>
              rw [filled] at judged
              have longer := @ih slots others
              rw [filled] at longer
              rw [longer judged]
              rfl
          | ok p =>
              have longer := @ih slots others
              rw [filled] at longer
              rw [longer trivial]
              rfl

theorem skip_of_fill (stable : ∀ field ∈ shape, field.decoder.Stable) {slots' : Slots shape}
    {rest : Source} (h : Slots.fill shape slots name s = .ok (slots', rest)) (frames : List Frame) :
    skip .before frames s = skip .behind frames rest := by
  induction shape with
  | nil =>
      rw [Slots.fill] at h
      split at h
      · cases h
      · next passed =>
          obtain rfl := rest_eq h
          exact skip_inside passed frames
  | cons field shape ih =>
      obtain ⟨slot, slots⟩ := slots
      obtain ⟨stable, others⟩ := List.forall_mem_cons.mp stable
      rw [Slots.fill] at h
      split at h
      · split at h
        · cases h
        · next accepted =>
            obtain rfl := rest_eq h
            exact stable.skip_of_read accepted frames
      · split at h
        · cases h
        · next filled =>
            obtain rfl := rest_eq h
            exact ih others filled

theorem skipInside_of_readMembers (stable : ∀ field ∈ shape, field.decoder.Stable)
    {slots' : Slots shape} {rest : Source}
    (h : readMembers shape first slots s = .ok (slots', rest)) (frames : List Frame) :
    skipInside .object first frames s = skip .behind frames rest := by
  fun_induction readMembers shape first slots s with
  | case1 | case3 | case4 | case5 => cases h
  | case2 first slots s rest named =>
      cases h
      exact skipInside_of_close (skipBlank_of_readName named)
  | case6 first slots s name rest named new rest' colon slots' rest'' filled ih =>
      rw [skipInside_of_name named colon, skip_of_fill stable filled]
      exact ih h

theorem readMembers_append (stable : ∀ field ∈ shape, field.decoder.Stable)
    {r : Except Fault (Slots shape × Source)} (h : readMembers shape first slots s = r)
    (judged : Judged r) (ends : Ends t) :
    readMembers shape first slots (s ++ t) = r.map (extend t) := by
  subst h
  fun_induction readMembers shape first slots s with
  | case1 first slots s f named =>
      rw [readMembers_eq, readName_append named judged t]
      rfl
  | case2 first slots s rest named =>
      rw [readMembers_eq, readName_append named trivial t]
      rfl
  | case3 first slots s name rest named filled =>
      rw [readMembers_eq, readName_append named trivial t]
      exact if_pos filled
  | case4 first slots s name rest named new f colon =>
      rw [readMembers_eq, readName_append named trivial t]
      simp only [Except.map, extend, if_neg new, skipColon_append colon judged t]
  | case5 first slots s name rest named new rest' colon f filled =>
      rw [readMembers_eq, readName_append named trivial t]
      simp only [Except.map, extend, if_neg new, skipColon_append colon trivial t,
        fill_append stable filled judged ends]
  | case6 first slots s name rest named new rest' colon slots' rest'' filled ih =>
      rw [readMembers_eq, readName_append named trivial t]
      simp only [Except.map, extend, if_neg new, skipColon_append colon trivial t,
        fill_append stable filled trivial ends]
      exact ih judged

theorem readElements_append {shape : Shape} (stable : ∀ field ∈ shape, field.decoder.Stable)
    {r : Except Fault (Values shape × Source)} (h : readElements shape first s = r)
    (judged : Judged r) (ends : Ends t) :
    readElements shape first (s ++ t) = r.map (extend t) := by
  subst h
  induction shape generalizing first s with
  | nil =>
      cases begins : skipBlank s with
      | nil =>
          rw [readElements, begins] at judged
          cases judged
      | cons item rest =>
          rw [readElements, begins] at judged
          rw [readElements, readElements, skipBlank_append begins, begins]
          split at judged
          · next h => cases h
          · next h =>
              cases h
              rfl
          · cases judged
  | cons field shape ih =>
      obtain ⟨stable, others⟩ := List.forall_mem_cons.mp stable
      rw [readElements] at judged
      rw [readElements, readElements]
      cases element : skipToElement first s with
      | error f =>
          rw [element] at judged
          rw [skipToElement_append element judged t]
          rfl
      | ok s' =>
          rw [element] at judged
          rw [skipToElement_append element trivial t]
          simp only [Except.map] at judged ⊢
          cases accepted : field.decoder.read s' with
          | error f =>
              rw [accepted] at judged
              rw [stable.read_append accepted judged ends]
              rfl
          | ok p =>
              rw [accepted] at judged
              rw [stable.read_append accepted trivial ends]
              simp only [Except.map, extend] at judged ⊢
              cases more : readElements shape false p.2 with
              | error f =>
                  rw [more] at judged
                  rw [ih others (by rwa [more]), more]
                  rfl
              | ok q =>
                  rw [ih others (by rw [more]; trivial), more]
                  rfl

theorem skipInside_of_readElements {shape : Shape} (stable : ∀ field ∈ shape, field.decoder.Stable)
    {values : Values shape} {rest : Source}
    (h : readElements shape first s = .ok (values, rest)) (frames : List Frame) :
    skipInside .list first frames s = skip .behind frames rest := by
  induction shape generalizing first s with
  | nil =>
      rw [readElements] at h
      split at h
      · cases h
      · next close =>
          obtain rfl := rest_eq h
          exact skipInside_of_close close
      · cases h
  | cons field shape ih =>
      obtain ⟨stable, others⟩ := List.forall_mem_cons.mp stable
      rw [readElements] at h
      split at h
      · cases h
      · next element =>
          split at h
          · cases h
          · next accepted =>
              split at h
              · cases h
              · next more =>
                  obtain rfl := rest_eq h
                  rw [skipInside_of_element element, stable.skip_of_read accepted]
                  exact ih others more

end Members

namespace Decoder

variable {d : Decoder α} {shape : Shape}

/-- What begins in another way than a string is no text. -/
theorem read_text_of_other {s rest : Source} {item : Option Char}
    (begins : skipBlank s = item :: rest) (quote : item ≠ some '"') :
    text.read s = .error (mismatch (item :: rest)) := by
  simp only [text, begins]
  split
  · next h => exact absurd (List.cons.inj h).1 quote
  · rfl

theorem stable_text : text.Stable where
  read_skipBlank s := by
    simp only [text, skipBlank_skipBlank]
  read_append := by
    rintro s t r rfl judged ends
    cases begins : skipBlank s with
    | nil =>
        simp only [text, begins] at judged
        cases judged
    | cons item rest =>
        by_cases quote : item = some '"'
        · subst quote
          simp only [text, begins, skipBlank_append begins] at judged ⊢
          exact readString_append rfl judged t
        · rw [read_text_of_other begins quote] at judged ⊢
          rw [read_text_of_other (skipBlank_append begins t) quote, ← List.cons_append,
            mismatch_append judged ends]
          exact congrArg Except.error judged.symm
  skip_of_read := by
    intro s rest x h frames
    simp only [text] at h
    split at h
    · next quote =>
        have passed : skipScalar (some '"' :: _) = _ := skipString_of_readString h
        rw [skip_scalar quote (by decide) (by decide), passed]
    · cases h

theorem Stable.filterMap (h : d.Stable) (f : α → Option β) : (d.filterMap f).Stable where
  read_skipBlank s := by
    simp only [Decoder.filterMap, h.read_skipBlank]
  read_append := by
    rintro s t r rfl judged ends
    simp only [Decoder.filterMap] at judged ⊢
    cases accepted : d.read s with
    | error e =>
        rw [accepted] at judged
        rw [h.read_append accepted judged ends]
        rfl
    | ok p =>
        rw [h.read_append accepted trivial ends]
        simp only [Except.map, extend]
        cases f p.1 with
        | none => rfl
        | some b => rfl
  skip_of_read := by
    intro s rest b accepted
    simp only [Decoder.filterMap] at accepted
    split at accepted
    · cases accepted
    · next read =>
        split at accepted
        · cases accepted
        · obtain rfl := rest_eq accepted
          exact h.skip_of_read read

theorem Stable.map (h : d.Stable) (f : α → β) : (d.map f).Stable := h.filterMap _

theorem read_record_of_other {s rest : Source} {item : Option Char}
    (begins : skipBlank s = item :: rest) (brace : item ≠ some '\x7b') (bracket : item ≠ some '[') :
    (record shape).read s = .error (mismatch (item :: rest)) := by
  simp only [record, begins]
  split
  · next h => exact absurd (List.cons.inj h).1 brace
  · next h => exact absurd (List.cons.inj h).1 bracket
  · rfl

theorem stable_record (stable : ∀ field ∈ shape, field.decoder.Stable) : (record shape).Stable where
  read_skipBlank s := by
    simp only [record, skipBlank_skipBlank]
  read_append := by
    rintro s t r rfl judged ends
    cases begins : skipBlank s with
    | nil =>
        simp only [record, begins] at judged
        cases judged
    | cons item rest =>
        by_cases brace : item = some '\x7b'
        · subst brace
          simp only [record, begins, skipBlank_append begins] at judged ⊢
          cases members : readMembers shape true (Slots.none shape) rest with
          | error f =>
              rw [members] at judged
              rw [readMembers_append stable members judged ends]
              rfl
          | ok p =>
              rw [readMembers_append stable members trivial ends]
              simp only [Except.map, extend]
              cases Slots.values? shape p.1 with
              | none => rfl
              | some values => rfl
        · by_cases bracket : item = some '['
          · subst bracket
            simp only [record, begins, skipBlank_append begins] at judged ⊢
            exact readElements_append stable rfl judged ends
          · rw [read_record_of_other begins brace bracket] at judged ⊢
            rw [read_record_of_other (skipBlank_append begins t) brace bracket, ← List.cons_append,
              mismatch_append judged ends]
            exact congrArg Except.error judged.symm
  skip_of_read := by
    intro s rest values h frames
    simp only [record] at h
    split at h
    · next brace =>
        split at h
        · cases h
        · next members =>
            split at h
            · cases h
            · obtain rfl := rest_eq h
              rw [skip_before_congr (brace.trans rfl : skipBlank s = skipBlank (some '\x7b' :: _))]
              exact skipInside_of_readMembers stable members frames
    · next bracket =>
        rw [skip_before_congr (bracket.trans rfl : skipBlank s = skipBlank (some '[' :: _))]
        exact skipInside_of_readElements stable h frames
    · cases h

end Decoder

end Reminders.Json
