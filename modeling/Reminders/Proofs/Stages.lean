import Mathlib.Data.List.Forall2

/-!
# Work in stages

What is built in stages, each of which may fail, is built if no stage fails. Otherwise the first
stage that fails decides, and those after it are not looked at.

Two things are built alike if the stages of the one and of the other go alike: `Alike` says that
either both fail, for the same reason, or both succeed with results that stand in some relation.
-/

namespace Reminders.Stages

variable {α β ε : Type} {stage : α → β → Except ε α} {a c : α} {b : β} {bs bs' : List β} {e : ε}

theorem foldlM_cons_eq_ok_iff :
    (b :: bs).foldlM stage a = .ok c ↔ ∃ a', stage a b = .ok a' ∧ bs.foldlM stage a' = .ok c := by
  rw [List.foldlM_cons]
  cases stage a b with
  | error e => simp [bind, Except.bind]
  | ok a' => simp [bind, Except.bind]

theorem foldlM_append_eq_ok_iff :
    (bs ++ bs').foldlM stage a = .ok c ↔
      ∃ a', bs.foldlM stage a = .ok a' ∧ bs'.foldlM stage a' = .ok c := by
  induction bs generalizing a with
  | nil => simp [pure, Except.pure]
  | cons b bs ih =>
      simp only [List.cons_append, foldlM_cons_eq_ok_iff, ih]
      constructor
      · rintro ⟨a', hb, d, hbs, hbs'⟩
        exact ⟨d, ⟨a', hb, hbs⟩, hbs'⟩
      · rintro ⟨d, ⟨a', hb, hbs⟩, hbs'⟩
        exact ⟨a', hb, d, hbs, hbs'⟩

/-- The first stage that fails is reached from what the stages before it have built. -/
theorem foldlM_eq_error_iff :
    bs.foldlM stage a = .error e ↔
      ∃ earlier b later a', bs = earlier ++ b :: later ∧ earlier.foldlM stage a = .ok a' ∧
        stage a' b = .error e := by
  induction bs generalizing a with
  | nil => simp [pure, Except.pure]
  | cons b bs ih =>
      rw [List.foldlM_cons]
      cases hb : stage a b with
      | error e' =>
          simp only [bind, Except.bind, Except.error.injEq]
          constructor
          · rintro rfl
            exact ⟨[], b, bs, a, rfl, rfl, hb⟩
          · rintro ⟨_ | ⟨b', earlier⟩, b'', later, a', split, built, fails⟩
            · cases split
              cases built
              rw [hb] at fails
              exact Except.error.inj fails
            · cases split
              obtain ⟨_, first, -⟩ := foldlM_cons_eq_ok_iff.mp built
              rw [hb] at first
              cases first
      | ok a₁ =>
          simp only [bind, Except.bind]
          rw [ih]
          constructor
          · rintro ⟨earlier, b', later, a', rfl, built, fails⟩
            exact ⟨b :: earlier, b', later, a', rfl,
              foldlM_cons_eq_ok_iff.mpr ⟨a₁, hb, built⟩, fails⟩
          · rintro ⟨_ | ⟨b', earlier⟩, b'', later, a', split, built, fails⟩
            · cases split
              cases built
              rw [hb] at fails
              cases fails
            · cases split
              obtain ⟨_, first, rest⟩ := foldlM_cons_eq_ok_iff.mp built
              rw [hb] at first
              cases first
              exact ⟨earlier, b'', later, a', rfl, rest, fails⟩

/-- What is kept by every stage holds of what is built. -/
theorem foldlM_keeps {P : α → Prop} (kept : ∀ a, P a → ∀ b ∈ bs, ∀ a', stage a b = .ok a' → P a')
    (ha : P a) (built : bs.foldlM stage a = .ok c) : P c := by
  induction bs generalizing a with
  | nil =>
      cases built
      exact ha
  | cons b bs ih =>
      obtain ⟨a', first, rest⟩ := foldlM_cons_eq_ok_iff.mp built
      refine ih ?_ (kept a ha b List.mem_cons_self a' first) rest
      intro a ha b hb
      exact kept a ha b (List.mem_cons_of_mem _ hb)

/-- Both fail, and for the same reason, or both succeed with results that stand in a relation. -/
inductive Alike {α' : Type} (R : α → α' → Prop) : Except ε α → Except ε α' → Prop where
  | ok {a : α} {a' : α'} (related : R a a') : Alike R (.ok a) (.ok a')
  | error (e : ε) : Alike R (.error e) (.error e)

namespace Alike

variable {α' : Type} {R : α → α' → Prop} {r : Except ε α} {r' : Except ε α'}

theorem exists_ok (h : Alike R r r') (succeeds : r = .ok a) : ∃ a', r' = .ok a' ∧ R a a' := by
  cases h with
  | ok related =>
      cases succeeds
      exact ⟨_, rfl, related⟩
  | error e => cases succeeds

theorem both (h : Alike R r r') :
    (∃ e, r = .error e ∧ r' = .error e) ∨ ∃ a a', r = .ok a ∧ r' = .ok a' ∧ R a a' := by
  cases h with
  | ok related => exact .inr ⟨_, _, rfl, rfl, related⟩
  | error e => exact .inl ⟨e, rfl, rfl⟩

/-- Stages that go alike build alike. -/
theorem foldlM {β' : Type} {S : β → β' → Prop} {stage : α → β → Except ε α}
    {stage' : α' → β' → Except ε α'}
    (steps : ∀ a a' b b', R a a' → S b b' → Alike R (stage a b) (stage' a' b'))
    {a' : α'} {bs' : List β'} (ha : R a a') (hbs : List.Forall₂ S bs bs') :
    Alike R (bs.foldlM stage a) (bs'.foldlM stage' a') := by
  induction hbs generalizing a a' with
  | nil => exact .ok ha
  | @cons b b' _ _ hb _ ih =>
      rw [List.foldlM_cons, List.foldlM_cons]
      rcases (steps a a' b b' ha hb).both with ⟨e, fails, fails'⟩ | ⟨c, c', first, first', related⟩
      · rw [fails, fails']
        exact .error e
      · rw [first, first']
        exact ih related

end Alike

end Reminders.Stages
