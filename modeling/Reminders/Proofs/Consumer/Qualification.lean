import Reminders.Proofs.Consumer.Influence

/-!
# The qualification of declaring types

The unqualified form of a name is found behind its last double colon, so it holds none, and putting
a qualification in front of a name does not change it, unless the name begins with a colon, which
would then be part of the last double colon.

A pattern asks for nothing of a type but its base name: it makes the same of a setting as it makes,
with the base name written into it, of any other type (`Pattern.resolve_substitute`). So types whose
names differ in their qualification are all the same to it.
-/

namespace Reminders.Consumer

section Names

variable {name simple base : List Char}

theorem IsUnqualified.suffix (h : IsUnqualified name simple) : simple <:+ name := by
  rcases h.cut with rfl | ⟨front, rfl⟩
  · exact List.suffix_rfl
  · exact ⟨front ++ [':', ':'], by simp⟩

theorem IsUnqualified.not_infix (h : IsUnqualified name simple) : ¬ "::".toList <:+: simple := by
  rintro ⟨before, after, split⟩
  obtain ⟨front, placed⟩ := h.suffix
  -- What follows the double colon would have to end in the whole of it.
  have suffix : simple <:+ after := by
    apply h.last (front ++ before)
    rw [← placed, ← split]
    simp
  have shorter : after.length < simple.length := by
    rw [← split]
    simp
    omega
  exact absurd suffix.length_le (Nat.not_le.mpr shorter)

/-- What follows one double colon of a text, and does not begin with a colon, lies behind any other
double colon or contains it. -/
theorem suffix_or_within {front rest front' rest' : List Char} (plain : rest.head? ≠ some ':')
    (same : front ++ ':' :: ':' :: rest = front' ++ ':' :: ':' :: rest') :
    rest <:+ rest' ∨ ∃ inner, rest = inner ++ ':' :: ':' :: rest' := by
  rcases List.append_eq_append_iff.mp same with ⟨between, -, later⟩ | ⟨between, -, earlier⟩
  · rcases between with _ | ⟨c, _ | ⟨d, inner⟩⟩
    · simp only [List.nil_append, List.cons.injEq, true_and] at later
      exact .inl (later ▸ List.suffix_rfl)
    · simp only [List.cons_append, List.nil_append, List.cons.injEq] at later
      exact absurd (by simp [later.2.2]) plain
    · simp only [List.cons_append, List.cons.injEq] at later
      exact .inr ⟨inner, later.2.2⟩
  · rcases between with _ | ⟨c, _ | ⟨d, inner⟩⟩
    · simp only [List.nil_append, List.cons.injEq, true_and] at earlier
      exact .inl (earlier ▸ List.suffix_rfl)
    · simp only [List.cons_append, List.nil_append, List.cons.injEq] at earlier
      exact .inl ⟨[':'], earlier.2.2.symm⟩
    · simp only [List.cons_append, List.cons.injEq] at earlier
      exact .inl ⟨inner ++ [':', ':'], by simp [earlier.2.2]⟩

/-- A qualification in front of a name is not part of its unqualified form. -/
theorem IsUnqualified.qualify (h : IsUnqualified name simple) (plain : name.head? ≠ some ':')
    (qualifier : List Char) : IsUnqualified (qualifier ++ ':' :: ':' :: name) simple := by
  constructor
  · rcases h.cut with rfl | ⟨front, rfl⟩
    · exact .inr ⟨qualifier, rfl⟩
    · exact .inr ⟨qualifier ++ ':' :: ':' :: front, by simp⟩
  · intro front rest same
    rcases suffix_or_within plain same with behind | ⟨inner, within⟩
    · exact h.suffix.trans behind
    · exact h.last inner rest within

/-- The colon that a name begins with is lost when the name is qualified. -/
example : unqualified "shop:::Order".toList = "Order".toList ∧
    unqualified ":Order".toList = ":Order".toList := by decide

theorem IsBase.prefix_simple (h : IsBase simple base) : base <+: simple := by
  cases h with
  | long ends => exact ⟨_, ends⟩
  | short ends _ => exact ⟨_, ends⟩
  | whole _ => exact List.prefix_rfl

theorem exists_baseless_iff :
    (∃ fault, Baseless simple fault) ↔
      simple = [] ∨ simple = "EventController".toList ∨ simple = "Controller".toList := by
  constructor
  · rintro ⟨_, baseless⟩
    simpa [isBase_nil_iff, conventionalSuffixes] using baseless.isBase_nil
  · rintro (nothing | long | short)
    · exact ⟨_, .empty nothing⟩
    · exact ⟨_, .suffix (by decide) long⟩
    · exact ⟨_, .suffix (by decide) short⟩

end Names

theorem baseName_of_qualified {name : String} (plain : name.toList.head? ≠ some ':')
    (qualifier : String) : baseName (qualifier ++ "::" ++ name) = baseName name := by
  have same : unqualified (qualifier ++ "::" ++ name).toList = unqualified name.toList := by
    rw [unqualified_eq_iff]
    simpa using (isUnqualified_unqualified name.toList).qualify plain qualifier.toList
  simp only [baseName, same]

/-- A segment with a text written in the place of a placeholder. -/
def Segment.substitute (p : Placeholder) (cs : List Char) (s : Segment) : Segment :=
  if s = .placeholder p then .literal cs else s

/-- A pattern with a text written in the places of a placeholder. -/
def Pattern.substitute (pattern : Pattern) (p : Placeholder) (cs : List Char) : Pattern :=
  { pattern with segments := pattern.segments.map (Segment.substitute p cs) }

section Substitution

variable {text : String} {p : Placeholder} {cs : List Char} {setting setting' : Setting}

theorem Segment.value_substitute (given : p.value text setting = .ok cs)
    (agree : Setting.AgreeBut p setting setting') (s : Segment) :
    (s.substitute p cs).value text setting' = s.value text setting := by
  by_cases here : s = .placeholder p
  · rw [Segment.substitute, if_pos here, here]
    exact given.symm
  · rw [Segment.substitute, if_neg here]
    cases s with
    | literal text => rfl
    | placeholder q =>
        have other : q ≠ p := fun same => here (same ▸ rfl)
        exact (agree.value_eq other text).symm

theorem Segment.values_substitute (given : p.value text setting = .ok cs)
    (agree : Setting.AgreeBut p setting setting') (segments : List Segment) :
    values text setting' (segments.map (substitute p cs)) = values text setting segments := by
  induction segments with
  | nil => rfl
  | cons s segments ih => rw [List.map_cons, values, values, value_substitute given agree, ih]

/-- The value of a placeholder may as well be written into the pattern. -/
theorem Pattern.resolve_substitute {pattern : Pattern}
    (given : p.value pattern.text setting = .ok cs)
    (agree : Setting.AgreeBut p setting setting') :
    (pattern.substitute p cs).resolve setting' = pattern.resolve setting := by
  rw [resolve, resolve, substitute, Segment.values_substitute given agree]

end Substitution

namespace Pattern

variable {text : String} {pattern : Pattern}

/-- A pattern makes the same, name or fault, of a type whatever qualifies its name, as long as the
name does not begin with a colon. Where it refers to the type it has the base name: what follows the
last double colon, without one of the two suffixes, of which the longer one is tried first. There is
none exactly if nothing, or nothing but a suffix, follows the last double colon. A base name is not
empty and holds no double colon, and apart from it the type is of no account. -/
theorem resolve_of_qualified (h : parse text = .ok pattern) (action version : Option String) :
    (∀ qualifier name : String, name.toList.head? ≠ some ':' →
      pattern.resolve ⟨qualifier ++ "::" ++ name, action, version⟩ =
        pattern.resolve ⟨name, action, version⟩) ∧
    ∀ typeName, ∃ simple, IsUnqualified typeName.toList simple ∧
      (∀ base, Placeholder.controller.value text ⟨typeName, action, version⟩ = .ok base ↔
        IsBase simple base ∧ base ≠ []) ∧
      ((∃ fault, Placeholder.controller.value text ⟨typeName, action, version⟩ = .error fault) ↔
        simple = [] ∨ simple = "EventController".toList ∨ simple = "Controller".toList) ∧
      ∀ base, Placeholder.controller.value text ⟨typeName, action, version⟩ = .ok base →
        ¬ "::".toList <:+: base ∧
        ∀ other, pattern.resolve ⟨typeName, action, version⟩ =
          (pattern.substitute .controller base).resolve ⟨other, action, version⟩ := by
  constructor
  · intro qualifier name plain
    have values : Segment.values pattern.text ⟨qualifier ++ "::" ++ name, action, version⟩
        pattern.segments =
          Segment.values pattern.text ⟨name, action, version⟩ pattern.segments := by
      refine Segment.values_congr fun p _ => ?_
      cases p with
      | controller => exact baseName_of_qualified plain qualifier
      | action => rfl
      | version => rfl
    rw [resolve, resolve, values]
  · intro typeName
    have unqualified := isUnqualified_unqualified typeName.toList
    refine ⟨_, unqualified, ?_, ?_, ?_⟩
    · intro base
      exact baseName_eq_ok_iff.trans (by simp [← unqualified_eq_iff])
    · rw [← exists_baseless_iff]
      exact exists_congr fun fault => baseName_eq_error_iff.trans (by simp [← unqualified_eq_iff])
    · intro base given
      obtain ⟨simple, unqualified, stripped, -⟩ := baseName_eq_ok_iff.mp given
      refine ⟨fun within => ?_, fun other => ?_⟩
      · exact unqualified.not_infix (within.trans stripped.prefix_simple.isInfix)
      · rw [← text_of_parse h] at given
        have agree : Setting.AgreeBut .controller ⟨typeName, action, version⟩
            ⟨other, action, version⟩ := ⟨fun ne => (ne rfl).elim, fun _ => rfl, fun _ => rfl⟩
        exact (resolve_substitute given agree).symm

/-- A type whose name ends in two suffixes, qualified with double colons that overlap. Only the last
suffix is taken off. -/
theorem resolve_of_two_suffixes :
    ∃ pattern, parse "[controller].[action]" = .ok pattern ∧
      pattern.resolve
          ⟨"shop:::books::" ++ "::" ++ "BookEventControllerController", some "Sold", none⟩ =
        pattern.resolve ⟨"BookEventControllerController", some "Sold", none⟩ ∧
      ∀ other, pattern.resolve ⟨"BookEventControllerController", some "Sold", none⟩ =
        (pattern.substitute .controller "BookEventController".toList).resolve
          ⟨other, some "Sold", none⟩ := by
  have read : parse "[controller].[action]" =
      .ok ⟨"[controller].[action]",
        [.placeholder .controller, .literal ".".toList, .placeholder .action]⟩ := by
    decide +kernel
  obtain ⟨qualified, named⟩ := resolve_of_qualified read (some "Sold") none
  obtain ⟨simple, unqualified, value_iff, -, substituted⟩ := named "BookEventControllerController"
  have written : Consumer.unqualified "BookEventControllerController".toList =
      "BookEventControllerController".toList := by decide
  obtain rfl := unqualified.unique (unqualified_eq_iff.mp written)
  have given := (value_iff "BookEventController".toList).mpr ⟨.short rfl (by decide), by decide⟩
  exact ⟨_, read, qualified _ _ (by decide), (substituted _ given).2⟩

end Pattern

end Reminders.Consumer
