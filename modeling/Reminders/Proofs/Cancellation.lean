import Reminders.Cancellation

/-!
# Families of tokens

All names that have been given one token are a family. Which family a name belongs to is found by
looking back over the steps that were taken, to the step that bound the name last: it made a token,
or it passed on the token that another name had then. The tokens follow the families
(`get?_after`), and a token is cancelled if some step cancelled it through a name that was one of
its family at the time (`isCancelled_after_iff`).

So nothing takes a cancellation back, families do not touch each other, and binding a name again
concerns no other name.
-/

namespace Reminders.Tokens

inductive Step where
  /-- A token is made under a name. -/
  | create (name : String)
  /-- The token of a name is given to another name as well. -/
  | clone (name other : String)
  | cancel (name : String)
  /-- It is asked whether the token of a name is cancelled. -/
  | ask (name : String)
  /-- The token of a name is checked. -/
  | check (name : String)

inductive Answer where
  | nothing
  | told (cancelled : Bool)
  | checked (answer : Except Failure Unit)

/-- Takes one step. -/
def perform (tokens : Tokens) : Step → Answer × Tokens
  | .create name => (.nothing, tokens.create name)
  | .clone name other => (.nothing, tokens.clone name other)
  | .cancel name => (.nothing, tokens.cancel name)
  | .ask name => (.told (tokens.isCancelled name), tokens)
  | .check name => (.checked (tokens.check name), tokens)

/-- The tokens after the steps of a history, which has the latest step first. -/
def after (history : List Step) : Tokens :=
  history.foldr (fun step tokens => (tokens.perform step).2) .empty

namespace Step

/-- The name that a step binds. -/
def bound? : Step → Option String
  | create name => some name
  | clone _ other => some other
  | _ => none

/-- Whether a step makes a token. -/
def makes : Step → Bool
  | create _ => true
  | _ => false

end Step

/-- The family of a name, by the number of families that are older. A name that was never bound
belongs to none, and cloning it binds nothing. -/
def family? : List Step → String → Option Nat
  | [], _ => none
  | .create bound :: earlier, name =>
      if bound = name then some (earlier.countP Step.makes) else family? earlier name
  | .clone source bound :: earlier, name =>
      if bound = name then (family? earlier source).or (family? earlier name)
      else family? earlier name
  | _ :: earlier, name => family? earlier name

/-- A family is cancelled if some step cancelled the token of a name that was one of it then. -/
def FamilyCancelled (history : List Step) (family : Nat) : Prop :=
  ∃ later name earlier, history = later ++ .cancel name :: earlier ∧
    family? earlier name = some family

variable {history : List Step} {family : Nat}

section Bindings

variable (tokens : Tokens) (bound name source : String)

theorem get?_create : (tokens.create bound).get? name =
    if bound = name then some ⟨tokens.made⟩ else tokens.get? name := by
  split
  · next same => rw [← same, get?_create_self]
  · next other => rw [create, get?_bind_of_ne _ (Ne.symm other)]; rfl

theorem get?_clone : (tokens.clone source bound).get? name =
    if bound = name then (tokens.get? source).or (tokens.get? name) else tokens.get? name := by
  cases denotes : tokens.get? source with
  | none => simp [clone, denotes]
  | some token =>
      simp only [clone, denotes]
      split
      · next same => rw [← same, get?_bind_self]; rfl
      · next other => rw [get?_bind_of_ne _ (Ne.symm other)]

@[simp] theorem get?_cancel : (tokens.cancel bound).get? name = tokens.get? name := by
  rw [cancel]
  split <;> rfl

@[simp] theorem made_clone : (tokens.clone source bound).made = tokens.made := by
  rw [clone]
  split <;> rfl

@[simp] theorem made_cancel : (tokens.cancel bound).made = tokens.made := by
  rw [cancel]
  split <;> rfl

@[simp] theorem signals_clone : (tokens.clone source bound).signals = tokens.signals := by
  rw [clone]
  split <;> rfl

end Bindings

theorem after_cons (step : Step) (history : List Step) :
    after (step :: history) = ((after history).perform step).2 := rfl

theorem made_after (history : List Step) :
    (after history).made = history.countP Step.makes := by
  induction history with
  | nil => rfl
  | cons step history ih =>
      rw [after_cons, List.countP_cons, ← ih]
      cases step <;> simp [perform, create, bind, Step.makes]

/-- The token of a name is that of its family. -/
theorem get?_after (history : List Step) (name : String) :
    (after history).get? name = (family? history name).map Token.mk := by
  induction history generalizing name with
  | nil => rfl
  | cons step history ih =>
      rw [after_cons]
      cases step with
      | create bound =>
          simp only [perform, get?_create, family?, made_after, ih]
          split <;> rfl
      | clone source bound =>
          simp only [perform, get?_clone, family?, ih]
          split
          · cases family? history source <;> rfl
          · rfl
      | cancel other =>
          rw [perform, get?_cancel, ih, family?]
          all_goals nofun
      | ask other => exact ih name
      | check other => exact ih name

theorem familyCancelled_cons_iff {step : Step} :
    FamilyCancelled (step :: history) family ↔
      (∃ name, step = .cancel name ∧ family? history name = some family) ∨
        FamilyCancelled history family := by
  constructor
  · rintro ⟨_ | ⟨latest, later⟩, name, earlier, split, denotes⟩
    · obtain ⟨rfl, rfl⟩ := List.cons.inj split
      exact .inl ⟨name, rfl, denotes⟩
    · obtain ⟨rfl, rfl⟩ := List.cons.inj split
      exact .inr ⟨later, name, earlier, rfl, denotes⟩
  · rintro (⟨name, rfl, denotes⟩ | ⟨later, name, earlier, rfl, denotes⟩)
    · exact ⟨[], name, history, rfl, denotes⟩
    · exact ⟨step :: later, name, earlier, rfl, denotes⟩

theorem isCancelled_signals_after :
    (after history).signals.isCancelled ⟨family⟩ = true ↔ FamilyCancelled history family := by
  induction history with
  | nil => simp [after, empty, FamilyCancelled]
  | cons step history ih =>
      rw [familyCancelled_cons_iff, ← ih, after_cons]
      cases step with
      | cancel name =>
          rw [perform, cancel, get?_after]
          cases denotes : family? history name with
          | none => simp [denotes]
          | some own => simp [denotes, @eq_comm _ own family]
      | clone source bound => simp [perform]
      | _ => simp [perform, create, bind]

/-- The token of a name has been cancelled, through that name or another of its family. -/
def WasCancelled (history : List Step) (name : String) : Prop :=
  ∃ family, family? history name = some family ∧ FamilyCancelled history family

theorem isCancelled_after_iff {name : String} :
    (after history).isCancelled name = true ↔ WasCancelled history name := by
  rw [isCancelled, get?_after, WasCancelled]
  cases denotes : family? history name with
  | none => simp
  | some family => simpa using isCancelled_signals_after

theorem get?_after_eq_iff {earlier : List Step} {name other : String} :
    (after earlier).get? other = (after history).get? name ↔
      family? earlier other = family? history name := by
  have injective : Function.Injective Token.mk := fun _ _ same => congrArg Token.id same
  rw [get?_after, get?_after, (Option.map_injective injective).eq_iff]

/-- Families are numbered in the order in which they come up. -/
theorem family?_lt {name : String} (h : family? history name = some family) :
    family < history.countP Step.makes := by
  induction history generalizing name with
  | nil => cases h
  | cons step history ih =>
      rw [List.countP_cons]
      cases step with
      | create bound =>
          rw [family?] at h
          split at h
          -- The new family counts itself now, so its own number is below the count.
          · cases h
            simp [Step.makes]
          · exact Nat.lt_add_right _ (ih h)
      | clone source bound =>
          rw [family?] at h
          split at h
          · rcases Option.or_eq_some_iff.mp h with passed | ⟨-, kept⟩
            · exact ih passed
            · exact ih kept
          · exact ih h
      | _ => exact ih h

theorem FamilyCancelled.lt (h : FamilyCancelled history family) :
    family < history.countP Step.makes := by
  obtain ⟨later, name, earlier, rfl, denotes⟩ := h
  have := family?_lt denotes
  rw [List.countP_append, List.countP_cons]
  omega

theorem family?_create_self (history : List Step) (name : String) :
    family? (.create name :: history) name = some (history.countP Step.makes) := by
  rw [family?, if_pos rfl]

theorem family?_of_not_bound {step : Step} {name : String} (h : step.bound? ≠ some name) :
    family? (step :: history) name = family? history name := by
  cases step with
  | create bound => rw [family?, if_neg fun same => h (congrArg some same)]
  | clone source bound => rw [family?, if_neg fun same => h (congrArg some same)]
  | _ => rfl

/-- A step that neither binds a name nor cancels its family is of no account to the name. -/
theorem wasCancelled_cons_iff {step : Step} {name : String} (unbound : step.bound? ≠ some name)
    (apart : ∀ other, step = .cancel other → family? history other ≠ family? history name) :
    WasCancelled (step :: history) name ↔ WasCancelled history name := by
  simp only [WasCancelled, family?_of_not_bound unbound, familyCancelled_cons_iff]
  constructor
  · rintro ⟨family, denotes, ⟨other, cancels, denotes'⟩ | cancelled⟩
    · exact absurd (denotes'.trans denotes.symm) (apart other cancels)
    · exact ⟨family, denotes, cancelled⟩
  · rintro ⟨family, denotes, cancelled⟩
    exact ⟨family, denotes, .inr cancelled⟩

/-- Whatever comes later, a token that has been cancelled is so for all names that have it then. -/
theorem WasCancelled.append {name other : String} (h : WasCancelled history name)
    {later : List Step} (same : family? (later ++ history) other = family? history name) :
    WasCancelled (later ++ history) other := by
  obtain ⟨family, denotes, between, source, earlier, rfl, cancels⟩ := h
  exact ⟨family, same.trans denotes, later ++ between, source, earlier, by simp, cancels⟩

theorem not_wasCancelled_create (history : List Step) (name : String) :
    ¬ WasCancelled (.create name :: history) name := by
  rintro ⟨family, denotes, cancelled⟩
  rw [family?_create_self, Option.some_inj] at denotes
  rcases familyCancelled_cons_iff.mp cancelled with ⟨_, ⟨⟩, -⟩ | cancelled
  exact absurd cancelled.lt (denotes ▸ Nat.lt_irrefl _)

/-- A new token is the token of no other name. -/
theorem family?_create_ne {name other : String} (h : other ≠ name) (history : List Step) :
    family? (.create name :: history) other ≠ family? (.create name :: history) name := by
  have unbound : (Step.create name).bound? ≠ some other := fun same =>
    h (Option.some.inj same).symm
  rw [family?_of_not_bound unbound, family?_create_self]
  intro same
  exact absurd (family?_lt same) (Nat.lt_irrefl _)

theorem isCancelled_after_cons {step : Step} {name : String} (unbound : step.bound? ≠ some name)
    (apart : ∀ other, step = .cancel other → family? history other ≠ family? history name) :
    (after (step :: history)).isCancelled name = (after history).isCancelled name := by
  rw [Bool.eq_iff_iff, isCancelled_after_iff, isCancelled_after_iff,
    wasCancelled_cons_iff unbound apart]

/-- A name is told to be cancelled, and its check fails, exactly if some earlier step cancelled a
name that was of its family then. Two names have one token, at whatever times, exactly if they are
of one family. So a token that has been cancelled stays cancelled, under whatever name it is found
later; a cancellation does not concern a name with another token; and binding a name does not
concern any other name. A new token is not cancelled, and no other name has it. -/
theorem cancelled_through_family (history : List Step) (name : String) :
    (WasCancelled history name →
      (after history).perform (.ask name) = (.told true, after history) ∧
      (after history).perform (.check name) = (.checked (.error .cancelled), after history)) ∧
    (¬ WasCancelled history name →
      (after history).perform (.ask name) = (.told false, after history) ∧
      (after history).perform (.check name) = (.checked (.ok ()), after history)) ∧
    (∀ earlier other, (after earlier).get? other = (after history).get? name ↔
      family? earlier other = family? history name) ∧
    (∀ later other, (after (later ++ history)).get? other = (after history).get? name →
      (after history).isCancelled name = true →
      (after (later ++ history)).isCancelled other = true) ∧
    (∀ other, (after history).get? name ≠ (after history).get? other →
      (after (.cancel name :: history)).isCancelled other = (after history).isCancelled other) ∧
    (∀ step : Step, step.bound? = some name → ∀ other ≠ name,
      (after (step :: history)).get? other = (after history).get? other ∧
      (after (step :: history)).isCancelled other = (after history).isCancelled other) ∧
    (after (.create name :: history)).isCancelled name = false ∧
    ∀ other ≠ name, (after (.create name :: history)).get? other ≠
      (after (.create name :: history)).get? name := by
  refine ⟨?_, ?_, fun _ _ => get?_after_eq_iff, ?_, ?_, ?_, ?_, ?_⟩
  · intro cancelled
    rw [← isCancelled_after_iff] at cancelled
    simp [perform, check, cancelled]
  · intro live
    rw [← isCancelled_after_iff] at live
    simp [perform, check, live]
  · intro later other same cancelled
    rw [isCancelled_after_iff] at cancelled ⊢
    exact cancelled.append (get?_after_eq_iff.mp same)
  · intro other apart
    refine isCancelled_after_cons nofun ?_
    rintro _ ⟨⟩
    exact mt get?_after_eq_iff.mpr apart
  · intro step binds other ne
    have unbound : step.bound? ≠ some other := by
      rw [binds, Ne, Option.some_inj]
      exact ne.symm
    refine ⟨get?_after_eq_iff.mpr (family?_of_not_bound unbound), isCancelled_after_cons unbound ?_⟩
    rintro _ rfl
    cases binds
  · rw [← Bool.not_eq_true, isCancelled_after_iff]
    exact not_wasCancelled_create history name
  · intro other ne
    exact mt get?_after_eq_iff.mp (family?_create_ne ne history)

/-- The latest step first: a token is made and gets a second name, it is cancelled through that, and
then the second name is given to a new token. -/
def regrouped : List Step := [.create "b", .cancel "b", .clone "a" "b", .create "a"]

/-- The first name is cancelled all the same, and so is any name that is given its token. The second
is not, even if the first is cancelled once more, and it may be bound again without effect on the
first. -/
theorem cancelled_of_regrouped :
    ((after regrouped).perform (.check "a")).1 = .checked (.error .cancelled) ∧
      ((after regrouped).perform (.ask "b")).1 = .told false ∧
      (after ([.clone "a" "c"] ++ regrouped)).isCancelled "c" = true ∧
      (after (.cancel "a" :: regrouped)).isCancelled "b" = (after regrouped).isCancelled "b" ∧
      (after (.clone "a" "b" :: regrouped)).isCancelled "a" =
        (after regrouped).isCancelled "a" := by
  have cancelled : WasCancelled regrouped "a" := ⟨0, rfl, [.create "b"], "b", _, rfl, rfl⟩
  have live : ¬ WasCancelled regrouped "b" := not_wasCancelled_create _ _
  obtain ⟨told, -, -, stays, apart, -⟩ := cancelled_through_family regrouped "a"
  obtain ⟨-, told', -, -, -, bound, -⟩ := cancelled_through_family regrouped "b"
  refine ⟨congrArg Prod.fst (told cancelled).2, congrArg Prod.fst (told' live).1, ?_, ?_, ?_⟩
  · exact stays [.clone "a" "c"] "c" rfl (isCancelled_after_iff.mpr cancelled)
  · exact apart "b" (by decide)
  · exact (bound (.clone "a" "b") rfl "a" (by decide)).2

end Reminders.Tokens
