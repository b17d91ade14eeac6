import Reminders.Proofs.Consumer.Resolution

/-!
# What the name of a pattern depends on

A pattern refers to a placeholder exactly if the placeholder's text occurs somewhere in it, since no
bracket of a pattern that has been read is there for anything else
(`Pattern.references_iff_occurs`). And it refers to exactly those placeholders whose values matter:
of two settings that differ in the value of one other placeholder it makes the same, name or fault,
and for each placeholder that it refers to there are settings which it tells apart.
-/

namespace Reminders.Consumer

namespace Placeholder

/-- Two placeholders do not begin at one place. -/
theorem eq_of_begin_together {p q : Placeholder} {cs : List Char} (hp : p.text <+: cs)
    (hq : q.text <+: cs) : p = q := by
  obtain ⟨more, rfl⟩ := hp
  obtain ⟨more', same⟩ := hq
  obtain ⟨start, token, close, written, closes, split⟩ := p.exists_splitAfter? more
  obtain ⟨start', token', close', written', closes', split'⟩ := q.exists_splitAfter? more'
  rw [written, written', List.cons_append, List.cons_append] at same
  obtain ⟨rfl, rest⟩ := List.cons.inj same
  cases closes.symm.trans closes'
  rw [rest] at split'
  cases split.symm.trans split'
  rw [← Option.some_inj, ← ofText?_text, ← ofText?_text, written, written']

/-- A placeholder does not begin inside of another one. -/
theorem not_mem_tail (p q : Placeholder) : ∀ c ∈ p.text.head?, c ∉ q.text.tail := by
  cases p <;> cases q <;> simp [text]

end Placeholder

/-- What occurs in a text and begins with a character that is not at the front of it occurs behind
that. -/
theorem infix_of_infix_append {c : Char} {body front rest : List Char}
    (h : c :: body <:+: front ++ rest) (absent : c ∉ front) : c :: body <:+: rest := by
  induction front with
  | nil => exact h
  | cons d front ih =>
      rw [List.mem_cons, not_or] at absent
      rcases List.infix_cons_iff.mp h with starts | later
      · exact absurd (List.cons_prefix_cons.mp starts).1 absent.1
      · exact ih later absent.2

namespace Piece

/-- A placeholder whose text occurs among proper pieces is one of them. -/
theorem mem_of_text_occurs {p : Placeholder} {pieces : List Piece}
    (h : ∀ piece ∈ pieces, piece.Proper) (occurs : p.text <:+: pieces.flatMap text) :
    placeholder p ∈ pieces := by
  obtain ⟨start, token, close, written, closes, -⟩ := p.exists_splitAfter? []
  induction pieces with
  | nil => simp [written] at occurs
  | cons piece pieces ih =>
      obtain ⟨proper, others⟩ := List.forall_mem_cons.mp h
      rw [List.flatMap_cons] at occurs
      cases piece with
      | plain c =>
          have other : start ∉ [c] := by
            rintro (_ | ⟨_, ⟨⟩⟩)
            simp [Proper, isBracket, closes] at proper
          rw [written] at occurs
          exact .tail _ (ih others (written ▸ infix_of_infix_append occurs other))
      | placeholder q =>
          obtain ⟨start', token', close', written', -, -⟩ := q.exists_splitAfter? []
          have inside : start ∉ token' := by
            simpa [written, written'] using p.not_mem_tail q
          rw [text, written', List.cons_append] at occurs
          -- It begins with this placeholder, and is it, or else it lies behind it.
          rcases List.infix_cons_iff.mp occurs with starts | later
          · rw [← List.cons_append, ← written'] at starts
            rw [Placeholder.eq_of_begin_together starts (List.prefix_append _ _)]
            exact .head _
          · rw [written] at later
            exact .tail _ (ih others (written ▸ infix_of_infix_append later inside))

end Piece

namespace Segment

theorem placeholder_mem_collect_iff {p : Placeholder} {pieces : List Piece} :
    placeholder p ∈ collect pieces ↔ .placeholder p ∈ pieces := by
  induction pieces with
  | nil => simp [collect]
  | cons piece pieces ih =>
      cases piece with
      | placeholder q => simp [collect, ih]
      | plain c =>
          rw [collect]
          split
          · next joins => simp [← ih, joins]
          · simp [ih]

variable {text : String} {setting setting' : Setting} {segments : List Segment}

/-- Segments have the same values where their placeholders have. -/
theorem values_congr
    (h : ∀ p, placeholder p ∈ segments → p.value text setting = p.value text setting') :
    values text setting segments = values text setting' segments := by
  induction segments with
  | nil => rfl
  | cons s segments ih =>
      have here : s.value text setting = s.value text setting' := by
        cases s with
        | literal cs => rfl
        | placeholder p => exact h p (.head _)
      rw [values, values, here, ih fun p member => h p (.tail _ member)]

/-- Of segments among whose placeholders only one has no value, it is that one's fault. -/
theorem values_eq_error_of_only {p : Placeholder} {fault : Fault}
    (fails : p.value text setting = .error fault)
    (others : ∀ q ≠ p, ∃ value, q.value text setting = .ok value)
    (member : placeholder p ∈ segments) : values text setting segments = .error fault := by
  induction segments with
  | nil => cases member
  | cons s segments ih =>
      by_cases here : s = placeholder p
      · rw [values, here, Segment.value, fails]
        rfl
      · have given : ∃ value, s.value text setting = .ok value := by
          cases s with
          | literal cs => exact ⟨cs, rfl⟩
          | placeholder q => exact others q fun same => here (same ▸ rfl)
        obtain ⟨value, given⟩ := given
        have later := (List.mem_cons.mp member).resolve_left (Ne.symm here)
        rw [values, given, ih later]
        rfl

end Segment

namespace Setting

/-- Two settings that supply the same for each placeholder other than the given one. -/
structure AgreeBut (p : Placeholder) (setting setting' : Setting) : Prop where
  declaringType : p ≠ .controller → setting.declaringType = setting'.declaringType
  action : p ≠ .action → setting.action = setting'.action
  version : p ≠ .version → setting.version = setting'.version

theorem AgreeBut.value_eq {p q : Placeholder} {setting setting' : Setting}
    (h : AgreeBut p setting setting') (other : q ≠ p) (text : String) :
    q.value text setting = q.value text setting' := by
  cases q with
  | controller => rw [Placeholder.value, Placeholder.value, h.declaringType other.symm]
  | action => simp only [Placeholder.value, h.action other.symm]
  | version => simp only [Placeholder.value, h.version other.symm]

/-- A setting that supplies something for each placeholder. -/
def full : Setting := ⟨"A", some "A", some "1"⟩

/-- A setting that supplies nothing for one placeholder. -/
def without : Placeholder → Setting
  | .controller => { full with declaringType := "" }
  | .action => { full with action := none }
  | .version => { full with version := none }

theorem full_agreeBut_without (p : Placeholder) : AgreeBut p full (without p) := by
  cases p <;> constructor <;> simp [without]

theorem exists_value_full (text : String) (p : Placeholder) :
    ∃ value, p.value text full = .ok value := by
  cases p <;> exact ⟨_, rfl⟩

end Setting

/-- What is at fault where nothing is supplied for a placeholder of the pattern `text`. -/
def Placeholder.absence (text : String) : Placeholder → Fault
  | controller => .emptyType
  | action => .missingAction text
  | version => .missingVersion text

theorem Placeholder.value_without (text : String) (p : Placeholder) :
    p.value text (.without p) = .error (p.absence text) := by
  cases p <;> rfl

namespace Pattern

open Setting (AgreeBut full without full_agreeBut_without exists_value_full)

variable {text : String} {pattern : Pattern}

theorem references_iff_occurs (h : parse text = .ok pattern) (p : Placeholder) :
    pattern.references p = true ↔ p.text <:+: text.toList := by
  obtain ⟨-, pieces, scanned, rfl⟩ := parse_eq_ok_iff.mp h
  obtain ⟨written, proper⟩ := Piece.scan_eq_ok_iff.mp scanned
  rw [references, List.contains_iff_mem, Segment.placeholder_mem_collect_iff, ← written]
  constructor
  · intro member
    exact List.infix_of_mem_flatten (List.mem_map_of_mem (f := Piece.text) member)
  · exact Piece.mem_of_text_occurs proper

theorem resolve_full_ne_absence (h : parse text = .ok pattern) (p : Placeholder) :
    pattern.resolve full ≠ .error (p.absence text) := by
  intro failed
  rcases (resolve_eq_error_iff h).mp failed with
    ⟨before, s, after, -, -, fails⟩ | ⟨parts, -, -, blank⟩
  · have fails := Segment.value_of_fails fails
    cases s with
    | literal cs => cases fails
    | placeholder q =>
        obtain ⟨value, given⟩ := exists_value_full text q
        cases given.symm.trans fails
  · cases p <;> cases blank

/-- A pattern depends on what is supplied for a placeholder exactly if it refers to it. -/
theorem references_eq_false_iff (h : parse text = .ok pattern) (p : Placeholder) :
    pattern.references p = false ↔
      ∀ setting setting', AgreeBut p setting setting' →
        pattern.resolve setting = pattern.resolve setting' := by
  rw [← Bool.not_eq_true, references, List.contains_iff_mem]
  constructor
  · intro absent setting setting' agree
    have values : Segment.values pattern.text setting pattern.segments =
        Segment.values pattern.text setting' pattern.segments := by
      refine Segment.values_congr fun q member => agree.value_eq ?_ _
      rintro rfl
      exact absent member
    rw [resolve, resolve, values]
  · intro same member
    -- With everything supplied the pattern is not at fault for the lack of this placeholder, and
    -- without it the pattern is.
    have fails := Segment.values_eq_error_of_only (p.value_without text) ?_ member
    · refine resolve_full_ne_absence h p ?_
      rw [same _ _ (full_agreeBut_without p), resolve_of_values_error h fails]
    · intro q other
      rw [← (full_agreeBut_without p).value_eq other]
      exact exists_value_full text q

theorem exists_fault_of_not_resolvable (h : parse text = .ok pattern) {setting : Setting}
    (lacks : ¬ Resolvable pattern.segments setting) :
    ∃ fault message, pattern.resolve setting = .error fault ∧
      fault.failure = .configuration message := by
  cases resolved : pattern.resolve setting with
  | error fault => exact ⟨fault, fault.message, rfl, fault.failure_eq⟩
  | ok name => exact absurd ((exists_resolve_iff h).mp ⟨name, resolved⟩) lacks

/-- A pattern requires an action or a version exactly if the placeholder's text occurs in it, and
what it requires is what its name depends on. If a placeholder's text does not occur in a pattern,
then in any two settings that differ only in what they supply for it the pattern makes the same,
name or fault; otherwise it tells some such settings apart. An action that is required must be there
and not be empty, and a version that is required must be there, or else there is a fault of
configuration. -/
theorem requires_iff_influences (h : parse text = .ok pattern) :
    (pattern.requiresAction = true ↔ "[action]".toList <:+: text.toList) ∧
    (pattern.requiresVersion = true ↔ "\x7bversion:apiVersion\x7d".toList <:+: text.toList) ∧
    (pattern.requiresAction = false ↔ ∀ setting setting', AgreeBut .action setting setting' →
      pattern.resolve setting = pattern.resolve setting') ∧
    (pattern.requiresVersion = false ↔ ∀ setting setting', AgreeBut .version setting setting' →
      pattern.resolve setting = pattern.resolve setting') ∧
    (¬ "[controller]".toList <:+: text.toList ↔
      ∀ setting setting', AgreeBut .controller setting setting' →
        pattern.resolve setting = pattern.resolve setting') ∧
    (pattern.requiresAction = true → ∀ setting, setting.action = none ∨ setting.action = some "" →
      ∃ fault message, pattern.resolve setting = .error fault ∧
        fault.failure = .configuration message) ∧
    (pattern.requiresVersion = true → ∀ setting, setting.version = none →
      ∃ fault message, pattern.resolve setting = .error fault ∧
        fault.failure = .configuration message) := by
  refine ⟨references_iff_occurs h .action, references_iff_occurs h .version,
    references_eq_false_iff h .action, references_eq_false_iff h .version, ?_, ?_, ?_⟩
  · rw [← references_eq_false_iff h, ← Bool.not_eq_true]
    exact not_congr (references_iff_occurs h .controller).symm
  · intro required setting lacks
    refine exists_fault_of_not_resolvable h fun resolvable => ?_
    obtain ⟨name, supplied, nonempty⟩ := resolvable.action (List.contains_iff_mem.mp required)
    rcases lacks with none | empty
    · cases none.symm.trans supplied
    · exact nonempty (Option.some.inj (supplied.symm.trans empty))
  · intro required setting lacks
    refine exists_fault_of_not_resolvable h fun resolvable => ?_
    obtain ⟨number, supplied, -⟩ := resolvable.version (List.contains_iff_mem.mp required)
    cases lacks.symm.trans supplied

/-- A pattern that has the word of a placeholder also as plain text. It wants an action and a
version, but any type will do, even one whose name is nothing but a suffix. -/
theorem requires_of_repeated_word :
    ∃ pattern, parse "action_[action]_v\x7bversion:apiVersion\x7d" = .ok pattern ∧
      pattern.requiresAction = true ∧ pattern.requiresVersion = true ∧
      pattern.resolve ⟨"Controller", some "Placed", some "2.0"⟩ =
        pattern.resolve ⟨"shop::Order", some "Placed", some "2.0"⟩ ∧
      (∃ fault message, pattern.resolve ⟨"Order", some "", some "2.0"⟩ = .error fault ∧
        fault.failure = .configuration message) ∧
      ∃ fault message, pattern.resolve ⟨"Order", some "Placed", none⟩ = .error fault ∧
        fault.failure = .configuration message := by
  have read : parse "action_[action]_v\x7bversion:apiVersion\x7d" =
      .ok ⟨"action_[action]_v\x7bversion:apiVersion\x7d", [.literal "action_".toList,
        .placeholder .action, .literal "_v".toList, .placeholder .version]⟩ := by
    decide +kernel
  obtain ⟨action_iff, version_iff, -, -, controller_iff, noAction, noVersion⟩ :=
    requires_iff_influences read
  have action := action_iff.mpr (by decide +kernel)
  have version := version_iff.mpr (by decide +kernel)
  refine ⟨_, read, action, version, ?_, noAction action _ (.inr rfl), noVersion version _ rfl⟩
  exact controller_iff.mp (by decide +kernel) _ _ ⟨nofun, fun _ => rfl, fun _ => rfl⟩

end Pattern

end Reminders.Consumer
