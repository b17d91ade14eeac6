import Reminders.Mediator.Basic

/-!
# Building a mediator

A mediator is built once, by registrations made one after the other. The last policy and the last
handler for a type of requests count. A consumer can subscribe to a kind once; the first
subscription that repeats an earlier one makes the whole building fail.
-/

namespace Reminders

variable {C : Catalog} {σ : Type}

inductive Registration (C : Catalog) (σ : Type) where
  | policy (p : Policy σ)
  | handler (k : C.RequestKey) (h : Handler C σ k)
  | subscription (s : Subscription C σ)

namespace Mediator

/-- A mediator with nothing registered, which accepts every authenticated user. -/
def initial : Mediator C σ := ⟨Policy.authenticated, [], []⟩

def withPolicy (m : Mediator C σ) (p : Policy σ) : Mediator C σ := { m with policy := p }

/-- Registers a handler in the place of any earlier one for the same type of requests. -/
def withHandler (m : Mediator C σ) (k : C.RequestKey) (h : Handler C σ k) : Mediator C σ :=
  { m with handlers := m.handlers.filter (·.1 ≠ k) ++ [⟨k, h⟩] }

def alreadySubscribed (consumer : Consumer.Name) (kind : String) : Failure :=
  .configuration ("consumer " ++ consumer.text ++ " is already subscribed to " ++ kind)

def subscribe (m : Mediator C σ) (s : Subscription C σ) : Except Failure (Mediator C σ) :=
  if m.subscriptions.any fun t => t.kind = s.kind ∧ t.consumer = s.consumer then
    .error (alreadySubscribed s.consumer s.kind)
  else .ok { m with subscriptions := m.subscriptions ++ [s] }

def register (m : Mediator C σ) : Registration C σ → Except Failure (Mediator C σ)
  | .policy p => .ok (m.withPolicy p)
  | .handler k h => .ok (m.withHandler k h)
  | .subscription s => m.subscribe s

/-- Makes registrations in order, up to the first failure. -/
def registerAll (m : Mediator C σ) : List (Registration C σ) → Except Failure (Mediator C σ)
  | [] => .ok m
  | r :: rs => do
      let m ← m.register r
      m.registerAll rs

def build (rs : List (Registration C σ)) : Except Failure (Mediator C σ) := initial.registerAll rs

@[simp] theorem policy_withPolicy (m : Mediator C σ) (p : Policy σ) :
    (m.withPolicy p).policy = p := rfl

@[simp] theorem handler?_withPolicy (m : Mediator C σ) (p : Policy σ) (k : C.RequestKey) :
    (m.withPolicy p).handler? k = m.handler? k := rfl

@[simp] theorem subscriptions_withPolicy (m : Mediator C σ) (p : Policy σ) :
    (m.withPolicy p).subscriptions = m.subscriptions := rfl

@[simp] theorem policy_withHandler (m : Mediator C σ) (k : C.RequestKey) (h : Handler C σ k) :
    (m.withHandler k h).policy = m.policy := rfl

@[simp] theorem subscriptions_withHandler (m : Mediator C σ) (k : C.RequestKey)
    (h : Handler C σ k) : (m.withHandler k h).subscriptions = m.subscriptions := rfl

theorem findHandler?_append (k : C.RequestKey)
    (l l' : List ((k : C.RequestKey) × Handler C σ k)) :
    findHandler? k (l ++ l') = (findHandler? k l).or (findHandler? k l') := by
  induction l with
  | nil => simp [findHandler?]
  | cons p l ih =>
      obtain ⟨k', h⟩ := p
      by_cases hk : k' = k
      · subst hk
        simp [findHandler?]
      · simp [findHandler?, hk, ih]

theorem findHandler?_filter_self (k : C.RequestKey)
    (l : List ((k : C.RequestKey) × Handler C σ k)) :
    findHandler? k (l.filter (·.1 ≠ k)) = none := by
  induction l with
  | nil => rfl
  | cons p l ih =>
      obtain ⟨k', h⟩ := p
      by_cases hk : k' = k
      · simpa [List.filter_cons, hk] using ih
      · simpa [List.filter_cons, findHandler?, hk] using ih

theorem findHandler?_filter_of_ne {k k' : C.RequestKey} (hk : k' ≠ k)
    (l : List ((k : C.RequestKey) × Handler C σ k)) :
    findHandler? k' (l.filter (·.1 ≠ k)) = findHandler? k' l := by
  induction l with
  | nil => rfl
  | cons p l ih =>
      obtain ⟨k'', h⟩ := p
      by_cases h1 : k'' = k
      · subst h1
        simpa [List.filter_cons, findHandler?, Ne.symm hk] using ih
      · by_cases h2 : k'' = k'
        · subst h2
          simp [findHandler?, hk]
        · simpa [List.filter_cons, findHandler?, h1, h2] using ih

/-- The handler registered last is the one found. -/
@[simp] theorem handler?_withHandler_self (m : Mediator C σ) (k : C.RequestKey)
    (h : Handler C σ k) : (m.withHandler k h).handler? k = some h := by
  simp only [handler?, withHandler, findHandler?_append, findHandler?_filter_self]
  simp [findHandler?]

theorem handler?_withHandler_of_ne (m : Mediator C σ) {k k' : C.RequestKey} (hk : k' ≠ k)
    (h : Handler C σ k) : (m.withHandler k h).handler? k' = m.handler? k' := by
  simp only [handler?, withHandler, findHandler?_append, findHandler?_filter_of_ne hk]
  simp [findHandler?, Ne.symm hk]

end Mediator

end Reminders
