import Mathlib.Data.List.Infix
import Reminders.Proofs.Consumer.Grammar

/-!
# What is wrong with a pattern

A pattern that is refused has a longest beginning that is well written, and what follows it begins
with a bracket. That bracket is what is reported: it closes nothing, it is never closed, or it
begins something that is no placeholder. So the first problem is reported, at its offset in bytes,
whatever comes after it.
-/

namespace Reminders.Consumer

open Text (quoted quotedChar byteLength)

/-- A bracket that opens a placeholder, with the one that closes it. -/
def Opens (c close : Char) : Prop := (c, close) ∈ [('[', ']'), ('\x7b', '\x7d')]

theorem opens_iff {c close : Char} : Opens c close ↔ closing? c = some close := by
  by_cases square : c = '['
  · subst square
    simp [Opens, closing?, eq_comm]
  · by_cases brace : c = '\x7b' <;> simp [Opens, closing?, square, brace, eq_comm]

/-- The longest beginning of a text that is well written, and the rest of the text. -/
structure LongestStart (cs good rest : List Char) : Prop where
  split : cs = good ++ rest
  wellWritten : WellWritten good
  longest : ∀ front, front <+: cs → WellWritten front → front.length ≤ good.length

/-- What is said about the pattern `text` if a problem stands at an offset of it, given the pattern
from there on. -/
inductive Report (text : String) (offset : Nat) : List Char → String → Prop where
  | unmatched {c : Char} {rest : List Char} (closes : c ∈ [']', '\x7d']) :
      Report text offset (c :: rest)
        ("unmatched " ++ quotedChar c ++ " at offset " ++ toString offset ++ " in pattern " ++
          quoted text)
  | unterminated {c close : Char} {rest : List Char} (opens : Opens c close)
      (absent : close ∉ rest) :
      Report text offset (c :: rest)
        ("unterminated placeholder at offset " ++ toString offset ++ " in pattern " ++ quoted text)
  | unrecognized {c close : Char} {body rest : List Char} (opens : Opens c close)
      (first : close ∉ body) :
      Report text offset (c :: (body ++ close :: rest))
        ("unrecognized token " ++ String.ofList (c :: (body ++ [close])) ++ " in pattern " ++
          quoted text)

theorem splitAfter?_eq_none_iff {close : Char} {cs : List Char} :
    splitAfter? close cs = none ↔ close ∉ cs := by
  induction cs with
  | nil => simp [splitAfter?]
  | cons c cs ih =>
      by_cases h : c = close
      · simp [splitAfter?, h]
      · simp [splitAfter?, h, ih, Ne.symm h]

theorem exists_body_of_splitAfter? {close : Char} {cs token rest : List Char}
    (h : splitAfter? close cs = some (token, rest)) :
    ∃ body, token = body ++ [close] ∧ cs = body ++ close :: rest ∧ close ∉ body := by
  have found : close ∈ cs := by
    by_contra absent
    cases h.symm.trans (splitAfter?_eq_none_iff.mpr absent)
  obtain ⟨body, after, rfl, first⟩ := List.eq_append_cons_of_mem found
  rw [splitAfter?_append first] at h
  cases h
  exact ⟨body, rfl, rfl, first⟩

/-- Nothing that is well written begins here. -/
def Stuck (cs : List Char) : Prop := ∀ front, front <+: cs → WellWritten front → front = []

/-- Nothing well written begins at a bracket if no placeholder does. -/
theorem stuck_of_bracket {c : Char} {cs : List Char} (bracket : isBracket c = true)
    (none : ∀ close token rest, closing? c = some close →
      splitAfter? close cs = some (token, rest) → Placeholder.ofText? (c :: token) = none) :
    Stuck (c :: cs) := by
  intro front starts written
  cases written with
  | nil => rfl
  | plain plain rest =>
      obtain ⟨rfl, -⟩ := List.cons_prefix_cons.mp starts
      rw [isBracket_eq_false_iff.mpr plain] at bracket
      cases bracket
  | @placeholder text others known rest =>
      -- A placeholder that began here would be split off as a whole, and known.
      obtain ⟨p, hp⟩ := exists_placeholder_iff.mp known
      obtain ⟨more, whole⟩ := starts
      obtain ⟨start, token, close, written, closes, split⟩ := p.exists_splitAfter? (others ++ more)
      rw [hp, written, List.append_assoc, List.cons_append] at whole
      obtain ⟨rfl, rfl⟩ := List.cons.inj whole
      have unknown := none close _ _ closes split
      rw [← written, Placeholder.ofText?_text] at unknown
      cases unknown

/-- A text goes well as far as possible if what is left of it is stuck. -/
theorem LongestStart.of_stuck {good rest : List Char} (written : WellWritten good)
    (stuck : Stuck rest) : LongestStart (good ++ rest) good rest := by
  refine ⟨rfl, written, ?_⟩
  intro front starts written'
  by_contra longer
  rw [not_le] at longer
  obtain ⟨more, rfl⟩ :=
    List.prefix_of_prefix_length_le (List.prefix_append good rest) starts longer.le
  have none := stuck more ((List.prefix_append_right_inj good).mp starts)
    (written'.of_append written)
  simp [none] at longer

/-- A text is well written up to a place where it is stuck, and the problem there is reported with
its offset. -/
def StopsAt (offset : Nat) (cs : List Char) (defect : Defect) : Prop :=
  ∃ good rest, cs = good ++ rest ∧ WellWritten good ∧ Stuck rest ∧
    ∀ text, Report text (offset + byteLength good) rest (defect.message text)

theorem StopsAt.here {offset : Nat} {cs : List Char} {defect : Defect} (stuck : Stuck cs)
    (report : ∀ text, Report text offset cs (defect.message text)) : StopsAt offset cs defect :=
  ⟨[], cs, rfl, .nil, stuck, report⟩

theorem StopsAt.after {offset : Nat} {front cs : List Char} {defect : Defect}
    (h : StopsAt (offset + byteLength front) cs defect)
    (step : ∀ good, WellWritten good → WellWritten (front ++ good)) :
    StopsAt offset (front ++ cs) defect := by
  obtain ⟨good, rest, rfl, written, stuck, report⟩ := h
  refine ⟨front ++ good, rest, (List.append_assoc _ _ _).symm, step good written, stuck, ?_⟩
  intro text
  rw [Text.byteLength_append, ← Nat.add_assoc]
  exact report text

namespace Piece

theorem eq_error_of_cons {r : Except Defect (List Piece)} {piece : Piece} {defect : Defect}
    (h : (do let tail ← r; return piece :: tail) = .error defect) : r = .error defect := by
  cases r with
  | error defect' =>
      cases h
      rfl
  | ok tail => cases h

theorem stopsAt_of_scan_eq_error {offset : Nat} {cs : List Char} {defect : Defect}
    (h : scan offset cs = .error defect) : StopsAt offset cs defect := by
  fun_induction scan offset cs with
  | case1 => cases h
  | case2 offset c rest close closes absent =>
      -- The bracket is never closed.
      cases h
      refine .here (stuck_of_bracket (by simp [isBracket, closes]) ?_) ?_
      · intro close' token rest' closes' found
        cases closes.symm.trans closes'
        cases absent.symm.trans found
      · intro text
        exact .unterminated (opens_iff.mpr closes) (splitAfter?_eq_none_iff.mp absent)
  | case3 offset c rest close closes token rest' split unknown =>
      -- The bracket is closed, but what it encloses is no placeholder.
      cases h
      refine .here (stuck_of_bracket (by simp [isBracket, closes]) ?_) ?_
      · intro close' token' rest'' closes' found
        cases closes.symm.trans closes'
        cases split.symm.trans found
        exact unknown
      · intro text
        obtain ⟨body, rfl, rfl, first⟩ := exists_body_of_splitAfter? split
        exact .unrecognized (opens_iff.mpr closes) first
  | case4 offset c rest close closes token rest' split p known ih =>
      -- A placeholder: the problem is behind it.
      rw [← append_of_splitAfter? split, ← List.cons_append]
      refine (ih (eq_error_of_cons h)).after ?_
      intro good written
      have same : (String.ofList (c :: token)).toList = p.text := by
        rw [String.toList_ofList, Placeholder.text_of_ofText? known]
      have step := WellWritten.placeholder (exists_placeholder_iff.mpr ⟨p, same⟩) written
      rwa [String.toList_ofList] at step
  | case5 offset c rest opens closes =>
      -- The bracket closes nothing.
      cases h
      refine .here (stuck_of_bracket (by simp [isBracket, closes]) ?_) ?_
      · intro close token rest' closes'
        cases opens.symm.trans closes'
      · intro text
        exact .unmatched (by simpa [isClosing] using closes)
  | case6 offset c rest opens closes ih =>
      -- A plain character: the problem is behind it.
      have plain : isBracket c = false := by simp [isBracket, opens, closes]
      have stops := ih (eq_error_of_cons h)
      rw [← Nat.add_zero c.utf8Size, ← Text.byteLength_nil, ← Text.byteLength_cons] at stops
      exact stops.after fun good written => .plain (isBracket_eq_false_iff.mp plain) written

end Piece

namespace Pattern

theorem parse_eq_error_iff {text : String} (nonempty : text ≠ "") {fault : Fault} :
    parse text = .error fault ↔
      ∃ defect, Piece.scan 0 text.toList = .error defect ∧ fault = .pattern text defect := by
  rw [parse, if_neg nonempty]
  cases Piece.scan 0 text.toList with
  | error defect => simp [eq_comm]
  | ok pieces => simp

/-- A pattern that is refused is refused for its first problem: for the bracket after its longest
beginning that is well written. The failure is one of configuration. It says that the bracket closes
nothing, or that it is never closed, and at which byte that is; or it quotes what begins there, as
far as the bracket is closed for the first time. -/
theorem parse_reports_first (text : String) (nonempty : text ≠ "")
    (refused : ¬ ∃ pattern, parse text = .ok pattern) :
    ∃ good rest, LongestStart text.toList good rest ∧
      ∃ fault message, parse text = .error fault ∧ fault.failure = .configuration message ∧
        Report text (String.ofList good).utf8ByteSize rest message := by
  obtain ⟨fault, failed⟩ : ∃ fault, parse text = .error fault := by
    cases read : parse text with
    | error fault => exact ⟨fault, rfl⟩
    | ok pattern => exact absurd ⟨pattern, read⟩ refused
  obtain ⟨defect, scanned, rfl⟩ := (parse_eq_error_iff nonempty).mp failed
  obtain ⟨good, rest, split, written, stuck, report⟩ := Piece.stopsAt_of_scan_eq_error scanned
  refine ⟨good, rest, split ▸ .of_stuck written stuck, _, _, failed, rfl, ?_⟩
  have reported := report text
  rwa [Nat.zero_add, ← Text.utf8ByteSize_eq_byteLength] at reported

/-- A stray bracket after a letter of two bytes and a placeholder of eight is reported, not the
bracket behind it that is never closed. -/
theorem report_of_stray_bracket :
    "é[action]][x" ≠ "" ∧ (¬ ∃ pattern, parse "é[action]][x" = .ok pattern) ∧
      parse "é[action]][x" = .error (.pattern "é[action]][x" (.unmatched ']' 10)) ∧
      ∃ good rest, LongestStart "é[action]][x".toList good rest ∧
        Report "é[action]][x" (String.ofList good).utf8ByteSize rest
          (Defect.message "é[action]][x" (.unmatched ']' 10)) := by
  have failed : parse "é[action]][x" = .error (.pattern "é[action]][x" (.unmatched ']' 10)) := by
    decide +kernel
  have refused : ¬ ∃ pattern, parse "é[action]][x" = .ok pattern := by
    rw [failed]
    nofun
  obtain ⟨good, rest, start, fault, message, failed', wording, report⟩ :=
    parse_reports_first "é[action]][x" (by decide) refused
  obtain rfl := Except.error.inj (failed.symm.trans failed')
  obtain rfl := Failure.configuration.inj wording
  exact ⟨by decide, refused, failed, good, rest, start, report⟩

end Pattern

end Reminders.Consumer
