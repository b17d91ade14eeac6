import Reminders.Proofs.Consumer.BaseName
import Reminders.Proofs.Consumer.Grammar
import Reminders.Proofs.Consumer.Version

/-!
# Which patterns have a name

What a segment stands for in a setting, and why it stands for nothing, is told by two relations:
`Segment.Stands` and `Segment.Fails`. A pattern has a name if every segment stands for a text and
none of the texts holds a blank character; `Resolvable` spells that out in terms of the setting.
Otherwise the leftmost segment that stands for nothing is at fault, and blank characters are a fault
only if there is no such segment.

A pattern that has been read is not empty and has no empty literal, so its name is never empty.
-/

namespace Reminders.Consumer

open Text (isBlank trim splitOn join)

namespace Segment

/-- The text that a segment stands for in a setting. -/
inductive Stands (setting : Setting) : Segment → List Char → Prop where
  | literal (cs : List Char) : Stands setting (literal cs) cs
  | controller {simple base : List Char}
      (unqualified : IsUnqualified setting.declaringType.toList simple)
      (stripped : IsBase simple base) (left : base ≠ []) :
      Stands setting (placeholder .controller) base
  | action {name : String} (supplied : setting.action = some name) (nonempty : name ≠ "") :
      Stands setting (placeholder .action) name.toList
  | version {number : String} {kept : List (List Char)} (supplied : setting.version = some number)
      (wellFormed : Version.WellFormed number)
      (normal : Version.Normal (splitOn '.' (trim number.toList)) kept) :
      Stands setting (placeholder .version) (join '_' kept)

/-- Why a segment of the pattern `text` stands for nothing in a setting. -/
inductive Fails (text : String) (setting : Setting) : Segment → Fault → Prop where
  | controller {simple : List Char} {fault : Fault}
      (unqualified : IsUnqualified setting.declaringType.toList simple)
      (baseless : Baseless simple fault) : Fails text setting (placeholder .controller) fault
  | noAction (absent : setting.action = none) :
      Fails text setting (placeholder .action) (.missingAction text)
  | emptyAction (empty : setting.action = some "") :
      Fails text setting (placeholder .action) (.missingAction text)
  | noVersion (absent : setting.version = none) :
      Fails text setting (placeholder .version) (.missingVersion text)
  | emptyVersion {number : String} (supplied : setting.version = some number)
      (empty : trim number.toList = []) :
      Fails text setting (placeholder .version) .emptyVersion
  | malformedVersion {number : String} (supplied : setting.version = some number)
      (nonempty : trim number.toList ≠ []) (malformed : ¬ Version.WellFormed number) :
      Fails text setting (placeholder .version) (.malformedVersion number)

variable {text : String} {setting : Setting} {s : Segment} {segments : List Segment}
variable {value : List Char} {fault : Fault}

theorem value_of_stands (text : String) (h : s.Stands setting value) :
    s.value text setting = .ok value := by
  cases h with
  | literal => rfl
  | controller unqualified stripped left =>
      exact baseName_eq_ok_iff.mpr ⟨_, unqualified, stripped, left⟩
  | action supplied nonempty => simp [Segment.value, Placeholder.value, supplied, nonempty]
  | version supplied wellFormed normal =>
      simp only [Segment.value, Placeholder.value, supplied]
      exact Version.format_of_normal wellFormed normal

theorem value_of_fails (h : s.Fails text setting fault) : s.value text setting = .error fault := by
  cases h with
  | controller unqualified baseless =>
      exact baseName_eq_error_iff.mpr ⟨_, unqualified, baseless⟩
  | noAction absent => simp [Segment.value, Placeholder.value, absent]
  | emptyAction empty => simp [Segment.value, Placeholder.value, empty]
  | noVersion absent => simp [Segment.value, Placeholder.value, absent]
  | emptyVersion supplied empty =>
      have malformed := mt Version.WellFormed.trim_ne_nil (not_not_intro empty)
      simp only [Segment.value, Placeholder.value, supplied,
        Version.format_of_not_wellFormed malformed, if_pos empty]
  | malformedVersion supplied nonempty malformed =>
      simp only [Segment.value, Placeholder.value, supplied,
        Version.format_of_not_wellFormed malformed, if_neg nonempty]

/-- A segment stands for a text or fails. -/
theorem stands_or_fails (text : String) (setting : Setting) (s : Segment) :
    (∃ value, s.Stands setting value) ∨ ∃ fault, s.Fails text setting fault := by
  match s with
  | .literal cs => exact .inl ⟨cs, .literal cs⟩
  | .placeholder .controller =>
      cases named : baseName setting.declaringType with
      | ok base =>
          obtain ⟨simple, unqualified, stripped, left⟩ := baseName_eq_ok_iff.mp named
          exact .inl ⟨base, .controller unqualified stripped left⟩
      | error fault =>
          obtain ⟨simple, unqualified, baseless⟩ := baseName_eq_error_iff.mp named
          exact .inr ⟨fault, .controller unqualified baseless⟩
  | .placeholder .action =>
      cases supplied : setting.action with
      | none => exact .inr ⟨_, .noAction supplied⟩
      | some name =>
          by_cases empty : name = ""
          · exact .inr ⟨_, .emptyAction (empty ▸ supplied)⟩
          · exact .inl ⟨_, .action supplied empty⟩
  | .placeholder .version =>
      cases supplied : setting.version with
      | none => exact .inr ⟨_, .noVersion supplied⟩
      | some number =>
          by_cases wellFormed : Version.WellFormed number
          · obtain ⟨kept, normal⟩ := Version.exists_normal number
            exact .inl ⟨_, .version supplied wellFormed normal⟩
          · by_cases empty : trim number.toList = []
            · exact .inr ⟨_, .emptyVersion supplied empty⟩
            · exact .inr ⟨_, .malformedVersion supplied empty wellFormed⟩

theorem value_eq_ok_iff : s.value text setting = .ok value ↔ s.Stands setting value := by
  constructor
  · intro h
    rcases stands_or_fails text setting s with ⟨value', stands⟩ | ⟨fault, fails⟩
    · rw [value_of_stands text stands] at h
      cases h
      exact stands
    · rw [value_of_fails fails] at h
      cases h
  · exact value_of_stands text

theorem value_eq_error_iff : s.value text setting = .error fault ↔ s.Fails text setting fault := by
  constructor
  · intro h
    rcases stands_or_fails text setting s with ⟨value, stands⟩ | ⟨fault', fails⟩
    · rw [value_of_stands text stands] at h
      cases h
    · rw [value_of_fails fails] at h
      cases h
      exact fails
  · exact value_of_fails

/-- Segments have values if each stands for a text; the values follow each other in order. -/
theorem values_eq_ok_iff :
    values text setting segments = .ok value ↔
      ∃ parts, List.Forall₂ (Stands setting) segments parts ∧ value = parts.flatten := by
  induction segments generalizing value with
  | nil => simp [values, eq_comm]
  | cons s segments ih =>
      rw [values]
      cases front : s.value text setting with
      | error fault =>
          have fails := value_eq_error_iff.mp front
          simp only [bind, Except.bind, reduceCtorEq, false_iff, not_exists, not_and]
          rintro parts (_ | ⟨stands, _⟩) -
          rw [value_of_stands text stands] at front
          cases front
      | ok part =>
          have stands := value_eq_ok_iff.mp front
          cases rest : values text setting segments with
          | error fault =>
              simp only [bind, Except.bind, reduceCtorEq, false_iff, not_exists, not_and]
              rintro parts (_ | ⟨_, others⟩) -
              have ok := ih.mpr ⟨_, others, rfl⟩
              rw [rest] at ok
              cases ok
          | ok text' =>
              obtain ⟨parts, others, rfl⟩ := ih.mp rest
              simp only [bind, Except.bind, pure, Except.pure, Except.ok.injEq]
              constructor
              · rintro rfl
                exact ⟨part :: parts, .cons stands others, rfl⟩
              · rintro ⟨_, _ | ⟨stands', others'⟩, rfl⟩
                have same := value_of_stands text stands'
                have same' := ih.mpr ⟨_, others', rfl⟩
                rw [front] at same
                rw [rest] at same'
                rw [List.flatten_cons, Except.ok.inj same, Except.ok.inj same']

/-- Segments have no values if one of them fails; the leftmost of those is at fault. -/
theorem values_eq_error_iff :
    values text setting segments = .error fault ↔
      ∃ before s after, segments = before ++ s :: after ∧
        (∀ t ∈ before, ∃ value, t.Stands setting value) ∧ s.Fails text setting fault := by
  induction segments with
  | nil => simp [values]
  | cons s segments ih =>
      rw [values]
      cases front : s.value text setting with
      | error fault' =>
          have fails := value_eq_error_iff.mp front
          simp only [bind, Except.bind, Except.error.injEq]
          constructor
          · rintro rfl
            exact ⟨[], s, segments, rfl, by simp, fails⟩
          · rintro ⟨_ | ⟨t, before⟩, s', after, split, stand, fails'⟩
            · cases split
              rw [value_of_fails fails'] at front
              exact (Except.error.inj front).symm
            · cases split
              obtain ⟨value, stands⟩ := stand s (.head _)
              rw [value_of_stands text stands] at front
              cases front
      | ok part =>
          have stands := value_eq_ok_iff.mp front
          have step : (do let rest ← values text setting segments; return part ++ rest) =
                (.error fault : Except Fault (List Char)) ↔
              values text setting segments = .error fault := by
            cases values text setting segments <;> simp [bind, Except.bind, pure, Except.pure]
          refine step.trans (ih.trans ?_)
          constructor
          · rintro ⟨before, s', after, rfl, stand, fails⟩
            exact ⟨s :: before, s', after, rfl, List.forall_mem_cons.mpr ⟨⟨part, stands⟩, stand⟩,
              fails⟩
          · rintro ⟨_ | ⟨t, before⟩, s', after, split, stand, fails⟩
            · cases split
              rw [value_of_fails fails] at front
              cases front
            · cases split
              exact ⟨before, s', after, rfl, (List.forall_mem_cons.mp stand).2, fails⟩

end Segment

/-- When segments give a name in a setting, in terms of what the setting supplies. -/
structure Resolvable (segments : List Segment) (setting : Setting) : Prop where
  /-- The unqualified name of the declaring type is more than a conventional suffix. -/
  controller : .placeholder .controller ∈ segments →
    ∃ simple, IsUnqualified setting.declaringType.toList simple ∧ simple ≠ [] ∧
      simple ≠ "EventController".toList ∧ simple ≠ "Controller".toList
  action : .placeholder .action ∈ segments → ∃ name, setting.action = some name ∧ name ≠ ""
  version : .placeholder .version ∈ segments →
    ∃ number, setting.version = some number ∧ Version.WellFormed number
  /-- No literal, base name or action that is put into the name holds a blank character. -/
  dark_literal : ∀ cs, .literal cs ∈ segments → ∀ c ∈ cs, isBlank c = false
  dark_controller : .placeholder .controller ∈ segments → ∀ simple base,
    IsUnqualified setting.declaringType.toList simple → IsBase simple base →
      ∀ c ∈ base, isBlank c = false
  dark_action : .placeholder .action ∈ segments → ∀ name, setting.action = some name →
    ∀ c ∈ name.toList, isBlank c = false

namespace Segment

variable {text : String} {setting : Setting} {segments : List Segment}

/-- A segment that stands for a text without a blank character. -/
def Dark (setting : Setting) (s : Segment) : Prop :=
  ∃ value, s.Stands setting value ∧ ∀ c ∈ value, isBlank c = false

theorem dark_literal_iff {cs : List Char} :
    Dark setting (literal cs) ↔ ∀ c ∈ cs, isBlank c = false := by
  constructor
  · rintro ⟨_, ⟨⟩, dark⟩
    exact dark
  · intro dark
    exact ⟨cs, .literal cs, dark⟩

theorem dark_controller_iff :
    Dark setting (placeholder .controller) ↔
      (∃ simple, IsUnqualified setting.declaringType.toList simple ∧ simple ≠ [] ∧
        simple ≠ "EventController".toList ∧ simple ≠ "Controller".toList) ∧
      ∀ simple base, IsUnqualified setting.declaringType.toList simple → IsBase simple base →
        ∀ c ∈ base, isBlank c = false := by
  have left_iff (simple : List Char) :
      ¬ IsBase simple [] ↔ simple ≠ [] ∧ simple ≠ "EventController".toList ∧
        simple ≠ "Controller".toList := by
    simp [isBase_nil_iff, conventionalSuffixes]
  simp only [← left_iff]
  constructor
  · rintro ⟨base, stands, dark⟩
    cases stands with
    | controller unqualified stripped left =>
        refine ⟨⟨_, unqualified, fun nothing => left (stripped.unique nothing)⟩, ?_⟩
        intro simple' base' unqualified' stripped'
        obtain rfl := unqualified.unique unqualified'
        rwa [stripped'.unique stripped]
  · rintro ⟨⟨simple, unqualified, left⟩, dark⟩
    obtain ⟨base, stripped⟩ := exists_isBase simple
    refine ⟨base, .controller unqualified stripped ?_, dark simple base unqualified stripped⟩
    rintro rfl
    exact left stripped

theorem dark_action_iff :
    Dark setting (placeholder .action) ↔
      (∃ name, setting.action = some name ∧ name ≠ "") ∧
      ∀ name, setting.action = some name → ∀ c ∈ name.toList, isBlank c = false := by
  constructor
  · rintro ⟨_, stands, dark⟩
    cases stands with
    | action supplied nonempty =>
        refine ⟨⟨_, supplied, nonempty⟩, ?_⟩
        intro name supplied'
        obtain rfl := Option.some.inj (supplied.symm.trans supplied')
        exact dark
  · rintro ⟨⟨name, supplied, nonempty⟩, dark⟩
    exact ⟨name.toList, .action supplied nonempty, dark name supplied⟩

/-- A version is never the reason for a blank character in a name. -/
theorem dark_version_iff :
    Dark setting (placeholder .version) ↔
      ∃ number, setting.version = some number ∧ Version.WellFormed number := by
  constructor
  · rintro ⟨_, stands, -⟩
    cases stands with
    | version supplied wellFormed normal => exact ⟨_, supplied, wellFormed⟩
  · rintro ⟨number, supplied, wellFormed⟩
    obtain ⟨kept, normal⟩ := Version.exists_normal number
    exact ⟨_, .version supplied wellFormed normal,
      Version.not_isBlank_of_mem_format (Version.format_of_normal wellFormed normal)⟩

theorem resolvable_iff_forall_dark :
    Resolvable segments setting ↔ ∀ s ∈ segments, s.Dark setting := by
  constructor
  · intro h s member
    match s with
    | .literal cs => exact dark_literal_iff.mpr (h.dark_literal cs member)
    | .placeholder .controller =>
        exact dark_controller_iff.mpr ⟨h.controller member, h.dark_controller member⟩
    | .placeholder .action => exact dark_action_iff.mpr ⟨h.action member, h.dark_action member⟩
    | .placeholder .version => exact dark_version_iff.mpr (h.version member)
  · intro h
    exact {
      controller := fun member => (dark_controller_iff.mp (h _ member)).1
      action := fun member => (dark_action_iff.mp (h _ member)).1
      version := fun member => dark_version_iff.mp (h _ member)
      dark_literal := fun cs member => dark_literal_iff.mp (h _ member)
      dark_controller := fun member => (dark_controller_iff.mp (h _ member)).2
      dark_action := fun member => (dark_action_iff.mp (h _ member)).2 }

/-- The texts that segments stand for hold no blank character if each segment is dark. -/
theorem forall_dark_iff :
    (∀ s ∈ segments, s.Dark setting) ↔
      ∃ parts, List.Forall₂ (Stands setting) segments parts ∧
        ∀ c ∈ parts.flatten, isBlank c = false := by
  induction segments with
  | nil => simp
  | cons s segments ih =>
      rw [List.forall_mem_cons, ih]
      constructor
      · rintro ⟨⟨value, stands, dark⟩, parts, others, rest⟩
        refine ⟨value :: parts, .cons stands others, ?_⟩
        rw [List.flatten_cons, List.forall_mem_append]
        exact ⟨dark, rest⟩
      · rintro ⟨_, _ | ⟨stands, others⟩, dark⟩
        rw [List.flatten_cons, List.forall_mem_append] at dark
        exact ⟨⟨_, stands, dark.1⟩, _, others, dark.2⟩

/-- A segment in normal form stands for no empty text. -/
theorem Stands.ne_nil {s : Segment} {value : List Char} (h : s.Stands setting value)
    (nonempty : ∀ cs, s = .literal cs → cs ≠ []) : value ≠ [] := by
  cases h with
  | literal cs => exact nonempty _ rfl
  | controller _ _ left => exact left
  | action _ given => exact fun empty => given (String.toList_eq_nil_iff.mp empty)
  | version _ wellFormed normal =>
      exact Version.ne_nil_of_format (Version.format_of_normal wellFormed normal)

/-- The texts of the segments of a pattern that has been read are not all empty. -/
theorem flatten_ne_nil_of_parse {pattern : Pattern} (h : Pattern.parse text = .ok pattern)
    {parts : List (List Char)} (stand : List.Forall₂ (Stands setting) pattern.segments parts) :
    parts.flatten ≠ [] := by
  obtain ⟨normal, rendered⟩ := (Pattern.segments_eq_iff_of_parse h).mp rfl
  obtain ⟨written, -⟩ := Pattern.parse_eq_ok_iff.mp h
  cases segments : pattern.segments with
  | nil =>
      rw [segments, render_nil] at rendered
      exact absurd (String.toList_eq_nil_iff.mp rendered.symm) written
  | cons s rest =>
      rw [segments] at stand normal
      cases stand with
      | cons stands _ =>
          have front := stands.ne_nil fun cs same => normal.nonempty cs (same ▸ .head _)
          rw [List.flatten_cons]
          exact List.append_ne_nil_of_left_ne_nil front _

end Segment

theorem Name.ofText_eq_error_iff {text : String} (nonempty : text ≠ "") {fault : Fault} :
    Name.ofText text = .error fault ↔
      (∃ c ∈ text.toList, isBlank c = true) ∧ fault = .blankName text := by
  rw [← List.any_eq_true, Name.ofText, dif_neg nonempty]
  split
  · next blank =>
      constructor
      · intro refused
        cases refused
        exact ⟨blank, rfl⟩
      · rintro ⟨-, rfl⟩
        rfl
  · next dark =>
      constructor
      · intro refused
        cases refused
      · rintro ⟨blank, -⟩
        exact absurd blank dark

namespace Pattern

variable {text : String} {pattern : Pattern} {setting : Setting}

/-- What the segments stand for decides about the name. -/
theorem resolve_of_stands (h : parse text = .ok pattern) {parts : List (List Char)}
    (stand : List.Forall₂ (Segment.Stands setting) pattern.segments parts) :
    pattern.resolve setting = Name.ofText (String.ofList parts.flatten) := by
  rw [resolve, text_of_parse h, Segment.values_eq_ok_iff.mpr ⟨parts, stand, rfl⟩]
  rfl

theorem resolve_of_values_error (h : parse text = .ok pattern) {fault : Fault}
    (fails : Segment.values text setting pattern.segments = .error fault) :
    pattern.resolve setting = .error fault := by
  rw [resolve, text_of_parse h, fails]
  rfl

theorem resolve_eq_ok_iff (h : parse text = .ok pattern) {name : Name} :
    pattern.resolve setting = .ok name ↔
      ∃ parts, List.Forall₂ (Segment.Stands setting) pattern.segments parts ∧
        name.text = String.ofList parts.flatten := by
  constructor
  · intro named
    cases values : Segment.values text setting pattern.segments with
    | error fault =>
        rw [resolve_of_values_error h values] at named
        cases named
    | ok cs =>
        obtain ⟨parts, stand, rfl⟩ := Segment.values_eq_ok_iff.mp values
        rw [resolve_of_stands h stand] at named
        exact ⟨parts, stand, Name.text_of_ofText named⟩
  · rintro ⟨parts, stand, written⟩
    rw [resolve_of_stands h stand, ← written, Name.ofText_text]

theorem exists_resolve_iff (h : parse text = .ok pattern) :
    (∃ name, pattern.resolve setting = .ok name) ↔ Resolvable pattern.segments setting := by
  simp only [resolve_eq_ok_iff h, Segment.resolvable_iff_forall_dark, Segment.forall_dark_iff]
  constructor
  · rintro ⟨name, parts, stand, written⟩
    refine ⟨parts, stand, ?_⟩
    have dark := name.not_blank
    rw [written, String.toList_ofList] at dark
    simpa only [List.any_eq_false, Bool.not_eq_true] using dark
  · rintro ⟨parts, stand, dark⟩
    have nonempty : String.ofList parts.flatten ≠ "" := by
      simpa using Segment.flatten_ne_nil_of_parse h stand
    have accepted : (String.ofList parts.flatten).toList.any isBlank = false := by
      simpa only [String.toList_ofList, List.any_eq_false, Bool.not_eq_true] using dark
    exact ⟨⟨_, nonempty, accepted⟩, parts, stand, rfl⟩

theorem resolve_eq_error_iff (h : parse text = .ok pattern) {fault : Fault} :
    pattern.resolve setting = .error fault ↔
      (∃ before s after, pattern.segments = before ++ s :: after ∧
        (∀ t ∈ before, ∃ value, t.Stands setting value) ∧ s.Fails text setting fault) ∨
      ∃ parts, List.Forall₂ (Segment.Stands setting) pattern.segments parts ∧
        (∃ c ∈ parts.flatten, isBlank c = true) ∧
        fault = .blankName (String.ofList parts.flatten) := by
  rw [← Segment.values_eq_error_iff]
  cases values : Segment.values text setting pattern.segments with
  | error fault' =>
      rw [resolve_of_values_error h values, Except.error.injEq, Except.error.injEq]
      constructor
      · exact .inl
      · rintro (fails | ⟨parts, stand, -⟩)
        · exact fails
        · rw [Segment.values_eq_ok_iff.mpr ⟨parts, stand, rfl⟩] at values
          cases values
  | ok cs =>
      obtain ⟨parts, stand, rfl⟩ := Segment.values_eq_ok_iff.mp values
      have nonempty := Segment.flatten_ne_nil_of_parse h stand
      rw [resolve_of_stands h stand, Name.ofText_eq_error_iff (by simpa using nonempty),
        String.toList_ofList]
      constructor
      · exact fun blank => .inr ⟨parts, stand, blank⟩
      · rintro (fails | ⟨parts', stand', blank⟩)
        · cases fails
        · rw [Segment.values_eq_ok_iff.mpr ⟨parts', stand', rfl⟩] at values
          rwa [Except.ok.inj values] at blank

/-- What becomes of a pattern that has been read is decided by its segments. It has a name if the
setting supplies what they ask for, without blank characters. The name is made of what the segments
stand for, in their order. Otherwise the leftmost segment that stands for nothing is at fault, or,
if there is none, the blank characters of the name. The fault is one of configuration, and it is
never that the name is empty. -/
theorem resolve_iff_resolvable (h : parse text = .ok pattern) (setting : Setting) :
    ((∃ name, pattern.resolve setting = .ok name) ↔ Resolvable pattern.segments setting) ∧
    (∀ name, pattern.resolve setting = .ok name ↔
      ∃ parts, List.Forall₂ (Segment.Stands setting) pattern.segments parts ∧
        name.text = String.ofList parts.flatten) ∧
    (∀ fault, pattern.resolve setting = .error fault ↔
      (∃ before s after, pattern.segments = before ++ s :: after ∧
        (∀ t ∈ before, ∃ value, t.Stands setting value) ∧ s.Fails text setting fault) ∨
      ∃ parts, List.Forall₂ (Segment.Stands setting) pattern.segments parts ∧
        (∃ c ∈ parts.flatten, isBlank c = true) ∧
        fault = .blankName (String.ofList parts.flatten)) ∧
    ∀ fault, pattern.resolve setting = .error fault →
      fault.failure = .configuration fault.message ∧ fault ≠ .emptyName := by
  refine ⟨exists_resolve_iff h, fun _ => resolve_eq_ok_iff h, fun _ => resolve_eq_error_iff h, ?_⟩
  intro fault failed
  refine ⟨fault.failure_eq, ?_⟩
  rcases (resolve_eq_error_iff h).mp failed with
    ⟨before, s, after, -, -, fails⟩ | ⟨parts, -, -, rfl⟩
  · rintro rfl
    cases fails with
    | controller unqualified baseless => cases baseless
  · nofun

/-- The version `2.0.00` stands in a name without its zeros at the end. Where a type is nothing but
a suffix, this is what is reported, and not the blank character of a literal before it. -/
theorem resolve_of_suffixed :
    (∃ pattern name, parse "[controller]-v{version:apiVersion}" = .ok pattern ∧
      pattern.resolve ⟨"shop::OrderEventController", none, some " 2.0.00"⟩ = .ok name ∧
      name.text = "Order-v2") ∧
    ∃ pattern, parse "[action] [controller]" = .ok pattern ∧
      pattern.resolve ⟨"shop::Controller", some "Placed", none⟩ =
        .error (.suffixOnly "Controller" "Controller") := by
  constructor
  · have scanned : Piece.scan 0 "[controller]-v{version:apiVersion}".toList =
        .ok [.placeholder .controller, .plain '-', .plain 'v', .placeholder .version] := by
      refine Piece.scan_eq_ok_iff.mpr ⟨by decide, ?_⟩
      simp [Piece.Proper, isBracket, closing?, isClosing]
    have read := parse_eq_ok_iff.mpr ⟨by decide, _, scanned, rfl⟩
    have unqualified : IsUnqualified "shop::OrderEventController".toList
        "OrderEventController".toList := unqualified_eq_iff.mp (by decide)
    have wellFormed : Version.WellFormed " 2.0.00" :=
      Version.all_isComponent_iff.mp (by decide)
    have normal : Version.Normal (splitOn '.' (trim " 2.0.00".toList)) ["2".toList] := by
      refine ⟨⟨["0".toList, "00".toList], by decide, by simp⟩, List.cons_ne_nil _ _, ?_⟩
      rintro (_ | ⟨_, _⟩) part split given
      · exact absurd rfl given
      · simp at split
    obtain ⟨-, named, -, -⟩ := resolve_iff_resolvable read
      ⟨"shop::OrderEventController", none, some " 2.0.00"⟩
    refine ⟨_, ⟨"Order-v2", by decide, by decide⟩, read, (named _).mpr ?_, rfl⟩
    exact ⟨["Order".toList, ['-', 'v'], "2".toList], .cons
      (.controller unqualified (.long (by decide)) (by decide))
      (.cons (.literal _) (.cons (.version rfl wellFormed normal) .nil)), by decide⟩
  · have scanned : Piece.scan 0 "[action] [controller]".toList =
        .ok [.placeholder .action, .plain ' ', .placeholder .controller] := by
      refine Piece.scan_eq_ok_iff.mpr ⟨by decide, ?_⟩
      simp [Piece.Proper, isBracket, closing?, isClosing]
    have read := parse_eq_ok_iff.mpr ⟨by decide, _, scanned, rfl⟩
    have unqualified : IsUnqualified "shop::Controller".toList "Controller".toList :=
      unqualified_eq_iff.mp (by decide)
    obtain ⟨-, -, failed, -⟩ :=
      resolve_iff_resolvable read ⟨"shop::Controller", some "Placed", none⟩
    refine ⟨_, read, (failed _).mpr (.inl ⟨[.placeholder .action, .literal [' ']],
      .placeholder .controller, [], rfl, ?_, .controller unqualified (.suffix (by decide) rfl)⟩)⟩
    intro s member
    simp only [List.mem_cons, List.not_mem_nil, or_false] at member
    rcases member with rfl | rfl
    · exact ⟨_, .action rfl (by decide)⟩
    · exact ⟨_, .literal _⟩

end Pattern

end Reminders.Consumer
