import Mathlib.Data.List.Chain
import Reminders.Consumer.Pattern

/-!
# The grammar of patterns

A pattern is written with plain characters, which are no brackets, and with the texts of the three
placeholders. Reading a text into pieces succeeds exactly on the texts that are written so
(`exists_scan_iff`), and the pieces are then determined by the text, since a bracket can only come
from a placeholder.

Segments are pieces in a normal form: `Segment.expand` takes them apart into pieces again, and
`Segment.collect` undoes that. So there is one normal list of segments for every text.
-/

namespace Reminders.Consumer

/-- A text made of characters that are no brackets and of the texts of placeholders. -/
inductive WellWritten : List Char → Prop where
  | nil : WellWritten []
  | plain {c : Char} {cs : List Char} (h : c ∉ ['[', ']', '\x7b', '\x7d'])
      (rest : WellWritten cs) : WellWritten (c :: cs)
  | placeholder {text : String} {cs : List Char}
      (h : text ∈ ["[controller]", "[action]", "\x7bversion:apiVersion\x7d"])
      (rest : WellWritten cs) : WellWritten (text.toList ++ cs)

theorem isBracket_eq_false_iff {c : Char} :
    isBracket c = false ↔ c ∉ ['[', ']', '\x7b', '\x7d'] := by
  by_cases h1 : c = '['
  · simp [isBracket, closing?, h1]
  by_cases h2 : c = '\x7b'
  · simp [isBracket, closing?, h2]
  simp [isBracket, closing?, isClosing, h1, h2]

/-- The texts of the placeholders. -/
theorem exists_placeholder_iff {text : String} :
    text ∈ ["[controller]", "[action]", "\x7bversion:apiVersion\x7d"] ↔
      ∃ p : Placeholder, text.toList = p.text := by
  constructor
  · intro h
    simp only [List.mem_cons, List.not_mem_nil, or_false] at h
    rcases h with rfl | rfl | rfl
    · exact ⟨.controller, by decide⟩
    · exact ⟨.action, by decide⟩
    · exact ⟨.version, by decide⟩
  · rintro ⟨p, h⟩
    have same : text = String.ofList p.text := by
      rw [← h, String.ofList_toList]
    subst same
    cases p <;> decide

theorem splitAfter?_append {close : Char} {front rest : List Char} (h : close ∉ front) :
    splitAfter? close (front ++ close :: rest) = some (front ++ [close], rest) := by
  induction front with
  | nil => simp [splitAfter?]
  | cons c front ih =>
      rw [List.mem_cons, not_or] at h
      simp [splitAfter?, Ne.symm h.1, ih h.2]

/-- A placeholder's text is closed by its last character and no earlier one, so it is what is split
off where it begins. -/
theorem Placeholder.exists_splitAfter? (p : Placeholder) (cs : List Char) :
    ∃ start token close, p.text = start :: token ∧ closing? start = some close ∧
      splitAfter? close (token ++ cs) = some (token, cs) := by
  obtain ⟨start, close, body, written, closes, first⟩ : ∃ start close body,
      p.text = start :: (body ++ [close]) ∧ closing? start = some close ∧ close ∉ body := by
    cases p with
    | controller => exact ⟨'[', ']', "controller".toList, rfl, rfl, by decide⟩
    | action => exact ⟨'[', ']', "action".toList, rfl, rfl, by decide⟩
    | version => exact ⟨'\x7b', '\x7d', "version:apiVersion".toList, rfl, rfl, by decide⟩
  refine ⟨start, body ++ [close], close, written, closes, ?_⟩
  rw [List.append_assoc]
  exact splitAfter?_append first

namespace Piece

/-- A piece that reading can give: a plain character must not be a bracket. -/
def Proper : Piece → Prop
  | plain c => isBracket c = false
  | placeholder _ => True

theorem scan_plain {c : Char} (h : isBracket c = false) (offset : Nat) (cs : List Char) :
    scan offset (c :: cs) = (scan (offset + c.utf8Size) cs).map (plain c :: ·) := by
  simp only [isBracket, Bool.or_eq_false_iff, Option.isSome_eq_false_iff,
    Option.isNone_iff_eq_none] at h
  rw [scan]
  simp only [h.1, h.2]
  rfl

theorem scan_placeholder (p : Placeholder) (offset : Nat) (cs : List Char) :
    scan offset (p.text ++ cs) =
      (scan (offset + Text.byteLength p.text) cs).map (placeholder p :: ·) := by
  obtain ⟨start, token, close, written, closes, split⟩ := p.exists_splitAfter? cs
  have known : Placeholder.ofText? (start :: token) = some p := by
    rw [← written, Placeholder.ofText?_text]
  rw [written, List.cons_append, scan]
  simp only [closes]
  split
  · next none =>
      rw [split] at none
      cases none
  · next token' rest some =>
      rw [split] at some
      cases some
      rw [known]
      rfl

/-- Proper pieces are read from their text, and what follows it is read where it ends. -/
theorem scan_flatMap_text_append {pieces : List Piece} (h : ∀ piece ∈ pieces, piece.Proper)
    (offset : Nat) (cs : List Char) :
    scan offset (pieces.flatMap text ++ cs) =
      (scan (offset + Text.byteLength (pieces.flatMap text)) cs).map (pieces ++ ·) := by
  have join (piece : Piece) (pieces : List Piece) (r : Except Defect (List Piece)) :
      (r.map (pieces ++ ·)).map (piece :: ·) = r.map (piece :: pieces ++ ·) := by
    cases r <;> rfl
  induction pieces generalizing offset with
  | nil => cases here : scan offset cs <;> simp [here, Except.map]
  | cons piece pieces ih =>
      obtain ⟨proper, others⟩ := List.forall_mem_cons.mp h
      rw [List.flatMap_cons, List.append_assoc, Text.byteLength_append, ← Nat.add_assoc, ← join,
        ← ih others]
      cases piece with
      | plain c => exact (scan_plain proper offset _).trans (by simp [text])
      | placeholder p => exact scan_placeholder p offset _

/-- Proper pieces are read from their text. -/
theorem scan_flatMap_text {pieces : List Piece} (h : ∀ piece ∈ pieces, piece.Proper)
    (offset : Nat) : scan offset (pieces.flatMap text) = .ok pieces := by
  have read := scan_flatMap_text_append h offset []
  rw [List.append_nil, scan] at read
  exact read.trans (congrArg Except.ok (List.append_nil pieces))

theorem exists_tail_of_cons {r : Except Defect (List Piece)} {piece : Piece}
    {pieces : List Piece} (h : (do let tail ← r; return piece :: tail) = .ok pieces) :
    ∃ tail, r = .ok tail ∧ pieces = piece :: tail := by
  cases r with
  | error defect => cases h
  | ok tail =>
      cases h
      exact ⟨tail, rfl, rfl⟩

/-- What is read is proper, and written as the text says. -/
theorem proper_of_scan {offset : Nat} {cs : List Char} {pieces : List Piece}
    (h : scan offset cs = .ok pieces) :
    pieces.flatMap text = cs ∧ ∀ piece ∈ pieces, piece.Proper := by
  fun_induction scan offset cs generalizing pieces with
  | case1 =>
      cases h
      simp
  | case2 => cases h
  | case3 => cases h
  | case4 offset start rest close closes token rest' hsplit p known ih =>
      obtain ⟨tail, htail, rfl⟩ := exists_tail_of_cons h
      obtain ⟨written, proper⟩ := ih htail
      constructor
      · rw [List.flatMap_cons, written, ← append_of_splitAfter? hsplit, text,
          Placeholder.text_of_ofText? known, List.cons_append]
      · exact List.forall_mem_cons.mpr ⟨trivial, proper⟩
  | case5 => cases h
  | case6 offset c rest opens closes ih =>
      obtain ⟨tail, htail, rfl⟩ := exists_tail_of_cons h
      obtain ⟨written, proper⟩ := ih htail
      constructor
      · rw [List.flatMap_cons, written, text, List.singleton_append]
      · refine List.forall_mem_cons.mpr ⟨?_, proper⟩
        simp [Proper, isBracket, opens, closes]

/-- A text is read in one way at most, and only if it is the text of proper pieces. -/
theorem scan_eq_ok_iff {offset : Nat} {cs : List Char} {pieces : List Piece} :
    scan offset cs = .ok pieces ↔
      pieces.flatMap text = cs ∧ ∀ piece ∈ pieces, piece.Proper := by
  constructor
  · exact proper_of_scan
  · rintro ⟨rfl, proper⟩
    exact scan_flatMap_text proper offset

/-- The texts of proper pieces are those of the grammar. -/
theorem wellWritten_iff {cs : List Char} :
    WellWritten cs ↔
      ∃ pieces : List Piece, pieces.flatMap text = cs ∧ ∀ piece ∈ pieces, piece.Proper := by
  constructor
  · intro h
    induction h with
    | nil => exact ⟨[], rfl, by simp⟩
    | plain h rest ih =>
        obtain ⟨pieces, rfl, proper⟩ := ih
        refine ⟨.plain _ :: pieces, rfl, List.forall_mem_cons.mpr ⟨?_, proper⟩⟩
        exact isBracket_eq_false_iff.mpr h
    | placeholder h rest ih =>
        obtain ⟨pieces, rfl, proper⟩ := ih
        obtain ⟨p, hp⟩ := exists_placeholder_iff.mp h
        refine ⟨.placeholder p :: pieces, ?_, List.forall_mem_cons.mpr ⟨trivial, proper⟩⟩
        rw [hp]
        rfl
  · rintro ⟨pieces, rfl, proper⟩
    induction pieces with
    | nil => exact .nil
    | cons piece pieces ih =>
        obtain ⟨here, others⟩ := List.forall_mem_cons.mp proper
        rw [List.flatMap_cons]
        cases piece with
        | plain c => exact .plain (isBracket_eq_false_iff.mp here) (ih others)
        | placeholder p =>
            have written : (String.ofList p.text).toList = p.text := String.toList_ofList
            have known := exists_placeholder_iff.mpr ⟨p, written⟩
            have step := WellWritten.placeholder known (ih others)
            rwa [written] at step

/-- Reading succeeds on the texts of the grammar, wherever they begin. -/
theorem exists_scan_iff (offset : Nat) {cs : List Char} :
    (∃ pieces, scan offset cs = .ok pieces) ↔ WellWritten cs := by
  simp only [scan_eq_ok_iff, wellWritten_iff]

end Piece

/-- What is left of a text of the grammar after a beginning that is one is a text of the grammar. -/
theorem WellWritten.of_append {front rest : List Char} (whole : WellWritten (front ++ rest))
    (h : WellWritten front) : WellWritten rest := by
  obtain ⟨pieces, rfl, proper⟩ := Piece.wellWritten_iff.mp h
  obtain ⟨pieces', read⟩ := (Piece.exists_scan_iff 0).mpr whole
  rw [Piece.scan_flatMap_text_append proper] at read
  refine (Piece.exists_scan_iff (0 + Text.byteLength (pieces.flatMap Piece.text))).mp ?_
  cases after : Piece.scan (0 + Text.byteLength (pieces.flatMap Piece.text)) rest with
  | error defect =>
      rw [after] at read
      cases read
  | ok others => exact ⟨others, rfl⟩

namespace Segment

/-- Whether a segment is plain text. -/
def isLiteral : Segment → Bool
  | literal _ => true
  | placeholder _ => false

structure Normal (segments : List Segment) : Prop where
  /-- No literal is empty. -/
  nonempty : ∀ cs, literal cs ∈ segments → cs ≠ []
  /-- No two literals are neighbours. -/
  apart : segments.IsChain fun s t => s.isLiteral = false ∨ t.isLiteral = false
  /-- A literal is plain text, so no placeholder is mistaken for one. -/
  plain : ∀ cs, literal cs ∈ segments → ∀ c ∈ cs, c ∉ ['[', ']', '\x7b', '\x7d']

theorem normal_nil : Normal [] := ⟨by simp, .nil, by simp⟩

theorem normal_placeholder_iff {p : Placeholder} {segments : List Segment} :
    Normal (placeholder p :: segments) ↔ Normal segments := by
  constructor
  · rintro ⟨nonempty, apart, plain⟩
    refine ⟨?_, (List.isChain_cons.mp apart).2, ?_⟩
    · intro cs h
      exact nonempty cs (.tail _ h)
    · intro cs h
      exact plain cs (.tail _ h)
  · rintro ⟨nonempty, apart, plain⟩
    refine ⟨by simpa using nonempty, ?_, by simpa using plain⟩
    apply List.isChain_cons.mpr
    exact ⟨fun _ _ => .inl rfl, apart⟩

theorem normal_literal_iff {cs : List Char} {segments : List Segment} :
    Normal (literal cs :: segments) ↔
      cs ≠ [] ∧ (∀ c ∈ cs, isBracket c = false) ∧ (∀ s ∈ segments.head?, s.isLiteral = false) ∧
        Normal segments := by
  simp only [isBracket_eq_false_iff]
  constructor
  · rintro ⟨nonempty, apart, plain⟩
    obtain ⟨first, rest⟩ := List.isChain_cons.mp apart
    refine ⟨nonempty cs (.head _), plain cs (.head _), ?_, ?_, rest, ?_⟩
    · intro s hs
      simpa [isLiteral] using first s hs
    · intro cs' h
      exact nonempty cs' (.tail _ h)
    · intro cs' h
      exact plain cs' (.tail _ h)
  · rintro ⟨hne, hplain, first, nonempty, apart, plain⟩
    refine ⟨?_, List.isChain_cons.mpr ⟨fun s hs => .inr (first s hs), apart⟩, ?_⟩
    · intro cs' h
      rcases List.mem_cons.mp h with h | h
      · cases h
        exact hne
      · exact nonempty cs' h
    · intro cs' h
      rcases List.mem_cons.mp h with h | h
      · cases h
        exact hplain
      · exact plain cs' h

/-- Takes segments apart into pieces. -/
def expand : List Segment → List Piece
  | [] => []
  | literal cs :: segments => cs.map .plain ++ expand segments
  | placeholder p :: segments => .placeholder p :: expand segments

/-- Taking segments apart loses no text. -/
theorem flatMap_text_expand (segments : List Segment) :
    (expand segments).flatMap Piece.text = render segments := by
  induction segments with
  | nil => rfl
  | cons s segments ih =>
      rw [render_cons, ← ih]
      cases s with
      | literal cs =>
          rw [expand, List.flatMap_append]
          congr 1
          induction cs with
          | nil => rfl
          | cons c cs ih' => simpa [text, Piece.text] using ih'
      | placeholder p => rfl

theorem proper_of_mem_expand {segments : List Segment} (h : Normal segments) :
    ∀ piece ∈ expand segments, piece.Proper := by
  induction segments with
  | nil => simp [expand]
  | cons s segments ih =>
      cases s with
      | literal cs =>
          obtain ⟨-, plain, -, rest⟩ := normal_literal_iff.mp h
          intro piece member
          rcases List.mem_append.mp member with member | member
          · obtain ⟨c, hc, rfl⟩ := List.mem_map.mp member
            exact plain c hc
          · exact ih rest piece member
      | placeholder p =>
          exact List.forall_mem_cons.mpr ⟨trivial, ih (normal_placeholder_iff.mp h)⟩

theorem collect_plain_of_head {c : Char} {pieces : List Piece}
    (h : ∀ s ∈ (collect pieces).head?, s.isLiteral = false) :
    collect (.plain c :: pieces) = literal [c] :: collect pieces := by
  rw [collect]
  split
  · next cs segments heq =>
      rw [heq] at h
      cases h _ rfl
  · rfl

/-- A stretch of plain characters becomes one literal. -/
theorem collect_map_plain_append {cs : List Char} {pieces : List Piece} (hne : cs ≠ [])
    (h : ∀ s ∈ (collect pieces).head?, s.isLiteral = false) :
    collect (cs.map .plain ++ pieces) = literal cs :: collect pieces := by
  induction cs with
  | nil => exact absurd rfl hne
  | cons c cs ih =>
      cases cs with
      | nil => exact collect_plain_of_head h
      | cons d cs =>
          rw [List.map_cons, List.cons_append, collect, ih (List.cons_ne_nil d cs)]

/-- Normal segments are put together again from their pieces. -/
theorem collect_expand {segments : List Segment} (h : Normal segments) :
    collect (expand segments) = segments := by
  induction segments with
  | nil => rfl
  | cons s segments ih =>
      cases s with
      | literal cs =>
          obtain ⟨hne, -, first, rest⟩ := normal_literal_iff.mp h
          rw [expand, collect_map_plain_append hne (by rwa [ih rest]), ih rest]
      | placeholder p => rw [expand, collect, ih (normal_placeholder_iff.mp h)]

/-- What is put together from proper pieces is normal. -/
theorem normal_collect {pieces : List Piece} (h : ∀ piece ∈ pieces, piece.Proper) :
    Normal (collect pieces) := by
  induction pieces with
  | nil => exact normal_nil
  | cons piece pieces ih =>
      obtain ⟨proper, others⟩ := List.forall_mem_cons.mp h
      have rest := ih others
      cases piece with
      | placeholder p => exact normal_placeholder_iff.mpr rest
      | plain c =>
          rw [collect]
          split
          · next cs segments heq =>
              rw [heq] at rest
              obtain ⟨-, plain, first, rest⟩ := normal_literal_iff.mp rest
              refine normal_literal_iff.mpr ⟨List.cons_ne_nil c cs, ?_, first, rest⟩
              exact List.forall_mem_cons.mpr ⟨proper, plain⟩
          · next other =>
              refine normal_literal_iff.mpr ⟨List.cons_ne_nil c [], ?_, ?_, rest⟩
              · exact List.forall_mem_singleton.mpr proper
              · intro s hs
                cases s with
                | placeholder p => rfl
                | literal cs =>
                    obtain ⟨segments, heq⟩ := List.head?_eq_some_iff.mp hs
                    exact absurd heq (other cs segments)

/-- Normal segments are determined by their text. -/
theorem eq_of_render_eq {segments segments' : List Segment} (h : Normal segments)
    (h' : Normal segments') (same : render segments = render segments') :
    segments = segments' := by
  have read := Piece.scan_flatMap_text (proper_of_mem_expand h) 0
  have read' := Piece.scan_flatMap_text (proper_of_mem_expand h') 0
  rw [flatMap_text_expand] at read read'
  rw [same, read'] at read
  rw [← collect_expand h, ← collect_expand h', Except.ok.inj read]

end Segment

namespace Pattern

theorem parse_eq_ok_iff {text : String} {pattern : Pattern} :
    parse text = .ok pattern ↔
      text ≠ "" ∧ ∃ pieces, Piece.scan 0 text.toList = .ok pieces ∧
        pattern = ⟨text, Segment.collect pieces⟩ := by
  unfold parse
  split
  · next empty => simp [empty]
  · next hne =>
      cases Piece.scan 0 text.toList with
      | error defect => simp
      | ok pieces => simp [hne, eq_comm]

/-- The segments of a pattern are the normal ones for its text. -/
theorem segments_eq_iff_of_parse {text : String} {pattern : Pattern}
    (h : parse text = .ok pattern) {segments : List Segment} :
    segments = pattern.segments ↔
      Segment.Normal segments ∧ Segment.render segments = text.toList := by
  obtain ⟨-, pieces, hpieces, rfl⟩ := parse_eq_ok_iff.mp h
  obtain ⟨written, proper⟩ := Piece.scan_eq_ok_iff.mp hpieces
  have normal := Segment.normal_collect proper
  have rendered : Segment.render (Segment.collect pieces) = text.toList := by
    rw [Segment.render_collect, written]
  constructor
  · rintro rfl
    exact ⟨normal, rendered⟩
  · rintro ⟨normal', rendered'⟩
    exact Segment.eq_of_render_eq normal' normal (rendered'.trans rendered.symm)

end Pattern

end Reminders.Consumer
