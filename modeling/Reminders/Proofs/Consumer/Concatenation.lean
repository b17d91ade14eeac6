import Reminders.Proofs.Consumer.Resolution

/-!
# Patterns written one after the other

Two patterns that have been read can be written one after the other. The segments of the whole are
not always those of the parts: a literal that ends the first and one that begins the second become
one. What a text stands for does not depend on that (`Segment.standFor_collect_append_iff`), so the
name of the whole is the name of the first pattern followed by the name of the second, and the whole
has a name if both have one.
-/

namespace Reminders.Consumer

open Text (isBlank)

namespace Name

/-- One name after another. Neither is empty nor holds a blank character, so nor does the whole. -/
def append (first second : Name) : Name where
  text := first.text ++ second.text
  ne_empty empty := first.ne_empty (String.append_eq_empty_iff.mp empty).1
  not_blank := by
    rw [String.toList_append, List.any_append, first.not_blank, second.not_blank]
    rfl

instance : Append Name := ⟨append⟩

@[simp] theorem text_append (first second : Name) :
    (first ++ second).text = first.text ++ second.text := rfl

theorem exists_text_eq {cs : List Char} (nonempty : cs ≠ []) (dark : cs.any isBlank = false) :
    ∃ name : Name, name.text = String.ofList cs := by
  refine ⟨⟨String.ofList cs, by simpa using nonempty, ?_⟩, rfl⟩
  rwa [String.toList_ofList]

end Name

namespace Piece

/-- What can be read apart can be read together, since no piece reaches over the seam. -/
theorem scan_append {offset offset' : Nat} {cs cs' : List Char} {pieces pieces' : List Piece}
    (h : scan offset cs = .ok pieces) (h' : scan offset' cs' = .ok pieces') :
    scan offset (cs ++ cs') = .ok (pieces ++ pieces') := by
  obtain ⟨written, proper⟩ := scan_eq_ok_iff.mp h
  obtain ⟨written', proper'⟩ := scan_eq_ok_iff.mp h'
  refine scan_eq_ok_iff.mpr ⟨?_, List.forall_mem_append.mpr ⟨proper, proper'⟩⟩
  rw [List.flatMap_append, written, written']

end Piece

namespace Segment

variable {setting : Setting} {s : Segment} {segments : List Segment} {value : List Char}
variable {c : Char} {pieces pieces' : List Piece}

/-- Each of the segments stands for a text, and the texts make up the value. -/
def StandFor (setting : Setting) (segments : List Segment) (value : List Char) : Prop :=
  ∃ parts, List.Forall₂ (Stands setting) segments parts ∧ value = parts.flatten

theorem standFor_nil_iff : StandFor setting [] value ↔ value = [] := by
  simp [StandFor]

theorem standFor_cons_iff :
    StandFor setting (s :: segments) value ↔
      ∃ front rest, s.Stands setting front ∧ StandFor setting segments rest ∧
        value = front ++ rest := by
  constructor
  · rintro ⟨_, _ | ⟨stands, others⟩, rfl⟩
    exact ⟨_, _, stands, ⟨_, others, rfl⟩, rfl⟩
  · rintro ⟨front, _, stands, ⟨parts, others, rfl⟩, rfl⟩
    exact ⟨front :: parts, .cons stands others, rfl⟩

theorem standFor_literal_cons_iff {cs : List Char} :
    StandFor setting (literal cs :: segments) value ↔
      ∃ rest, StandFor setting segments rest ∧ value = cs ++ rest := by
  rw [standFor_cons_iff]
  constructor
  · rintro ⟨_, rest, ⟨⟩, others, rfl⟩
    exact ⟨rest, others, rfl⟩
  · rintro ⟨rest, others, rfl⟩
    exact ⟨cs, rest, .literal cs, others, rfl⟩

/-- A plain character stands for itself, whether or not it joins a literal. -/
theorem standFor_collect_plain_iff :
    StandFor setting (collect (.plain c :: pieces)) value ↔
      ∃ rest, StandFor setting (collect pieces) rest ∧ value = c :: rest := by
  rw [collect]
  split
  · next cs segments joins =>
      simp only [joins, standFor_literal_cons_iff]
      constructor
      · rintro ⟨rest, others, rfl⟩
        exact ⟨cs ++ rest, ⟨rest, others, rfl⟩, rfl⟩
      · rintro ⟨_, ⟨rest, others, rfl⟩, rfl⟩
        exact ⟨rest, others, rfl⟩
  · exact standFor_literal_cons_iff

/-- What pieces stand for is what those before any seam stand for and then what those after it
stand for, also where the seam is inside a literal. -/
theorem standFor_collect_append_iff :
    StandFor setting (collect (pieces ++ pieces')) value ↔
      ∃ front rest, StandFor setting (collect pieces) front ∧
        StandFor setting (collect pieces') rest ∧ value = front ++ rest := by
  induction pieces generalizing value with
  | nil => simp [collect, standFor_nil_iff]
  | cons piece pieces ih =>
      rw [List.cons_append]
      cases piece with
      | plain c =>
          simp only [standFor_collect_plain_iff, ih]
          constructor
          · rintro ⟨_, ⟨front, rest, before, after, rfl⟩, rfl⟩
            exact ⟨c :: front, rest, ⟨front, before, rfl⟩, after, rfl⟩
          · rintro ⟨_, rest, ⟨front, before, rfl⟩, after, rfl⟩
            exact ⟨front ++ rest, ⟨front, rest, before, after, rfl⟩, rfl⟩
      | placeholder p =>
          simp only [collect, standFor_cons_iff, ih]
          constructor
          · rintro ⟨part, _, stands, ⟨front, rest, before, after, rfl⟩, rfl⟩
            exact ⟨part ++ front, rest, ⟨part, front, stands, before, rfl⟩, after, by simp⟩
          · rintro ⟨_, rest, ⟨part, front, stands, before, rfl⟩, after, rfl⟩
            exact ⟨part, front ++ rest, stands, ⟨front, rest, before, after, rfl⟩, by simp⟩

end Segment

namespace Pattern

variable {text text' : String} {first second pattern : Pattern} {setting : Setting} {name : Name}

/-- A name is what the segments of its pattern stand for. -/
theorem resolve_eq_ok_iff_standFor (h : parse text = .ok pattern) :
    pattern.resolve setting = .ok name ↔
      Segment.StandFor setting pattern.segments name.text.toList := by
  rw [resolve_eq_ok_iff h]
  constructor
  · rintro ⟨parts, stand, written⟩
    exact ⟨parts, stand, by rw [written, String.toList_ofList]⟩
  · rintro ⟨parts, stand, written⟩
    exact ⟨parts, stand, by rw [← written, String.ofList_toList]⟩

theorem parse_append (hfirst : parse text = .ok first) (hsecond : parse text' = .ok second) :
    ∃ pieces pieces', first.segments = Segment.collect pieces ∧
      second.segments = Segment.collect pieces' ∧
      parse (text ++ text') = .ok ⟨text ++ text', Segment.collect (pieces ++ pieces')⟩ := by
  obtain ⟨nonempty, pieces, scanned, rfl⟩ := parse_eq_ok_iff.mp hfirst
  obtain ⟨-, pieces', scanned', rfl⟩ := parse_eq_ok_iff.mp hsecond
  refine ⟨pieces, pieces', rfl, rfl, parse_eq_ok_iff.mpr ⟨?_, _, ?_, rfl⟩⟩
  · intro empty
    exact nonempty (String.append_eq_empty_iff.mp empty).1
  · rw [String.toList_append]
    exact Piece.scan_append scanned scanned'

/-- Resolution respects concatenation. Two patterns that have been read can be read as one, written
one after the other. In every setting the whole has a name if and only if both of them have one, and
then the name of the whole is the name of the first followed by the name of the second. -/
theorem resolve_append_iff (hfirst : parse text = .ok first) (hsecond : parse text' = .ok second) :
    ∃ whole, parse (text ++ text') = .ok whole ∧ ∀ setting name,
      whole.resolve setting = .ok name ↔
        ∃ n n', first.resolve setting = .ok n ∧ second.resolve setting = .ok n' ∧
          name = n ++ n' := by
  obtain ⟨pieces, pieces', segments, segments', read⟩ := parse_append hfirst hsecond
  refine ⟨_, read, ?_⟩
  intro setting name
  simp only [resolve_eq_ok_iff_standFor hfirst, resolve_eq_ok_iff_standFor hsecond,
    resolve_eq_ok_iff_standFor read, segments, segments', Segment.standFor_collect_append_iff]
  constructor
  · rintro ⟨front, rest, before, after, written⟩
    have dark := name.not_blank
    rw [written, List.any_append, Bool.or_eq_false_iff] at dark
    obtain ⟨parts, stand, rfl⟩ := before
    obtain ⟨parts', stand', rfl⟩ := after
    have nonempty := Segment.flatten_ne_nil_of_parse hfirst (segments ▸ stand)
    have nonempty' := Segment.flatten_ne_nil_of_parse hsecond (segments' ▸ stand')
    obtain ⟨n, hn⟩ := Name.exists_text_eq nonempty dark.1
    obtain ⟨n', hn'⟩ := Name.exists_text_eq nonempty' dark.2
    refine ⟨n, n', ⟨parts, stand, by simp [hn]⟩, ⟨parts', stand', by simp [hn']⟩, ?_⟩
    rw [← Name.text_inj, ← String.toList_inj, Name.text_append, String.toList_append, hn, hn',
      String.toList_ofList, String.toList_ofList, written]
  · rintro ⟨n, n', before, after, rfl⟩
    exact ⟨n.text.toList, n'.text.toList, before, after, String.toList_append⟩

/-- Two literals meet where a pattern that ends in an underscore is followed by one that begins with
a letter; the whole has one literal there, and its name is made of the names of the two. -/
theorem resolve_of_seam :
    ∃ whole, parse ("[controller]_" ++ "v\x7bversion:apiVersion\x7d") = .ok whole ∧
      whole.segments =
        [.placeholder .controller, .literal ['_', 'v'], .placeholder .version] ∧
      ∃ name, whole.resolve ⟨"shop::OrderEventController", none, some "1.0"⟩ = .ok name ∧
        name.text = "Order_v1" := by
  have first : parse "[controller]_" =
      .ok ⟨"[controller]_", [.placeholder .controller, .literal ['_']]⟩ := by decide +kernel
  have second : parse "v\x7bversion:apiVersion\x7d" =
      .ok ⟨"v\x7bversion:apiVersion\x7d", [.literal ['v'], .placeholder .version]⟩ := by
    decide +kernel
  obtain ⟨whole, read, resolve_iff⟩ := resolve_append_iff first second
  have segments : parse ("[controller]_" ++ "v\x7bversion:apiVersion\x7d") =
      .ok ⟨"[controller]_" ++ "v\x7bversion:apiVersion\x7d",
        [.placeholder .controller, .literal ['_', 'v'], .placeholder .version]⟩ := by
    decide +kernel
  refine ⟨whole, read, ?_, _, (resolve_iff _ _).mpr
    ⟨⟨"Order_", by decide, by decide⟩, ⟨"v1", by decide, by decide⟩, ?_, ?_, rfl⟩, rfl⟩
  · cases read.symm.trans segments
    rfl
  · decide +kernel
  · decide +kernel

end Pattern

end Reminders.Consumer
