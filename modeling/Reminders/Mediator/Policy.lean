import Reminders.Identity
import Reminders.Task

/-!
# Authorization policies

A policy decides whether a user may issue requests of a type. It is asked only about requests that
present a user id other than the nil one.
-/

namespace Reminders

/-- Decides whether a user may issue requests of the named type. -/
abbrev Policy (σ : Type) := UserId → String → Task σ Unit

namespace Policy

variable {σ : Type}

/-- Accepts every user but the nil one. -/
def authenticated : Policy σ := fun user requestType =>
  if user.isNil then throw (.authorization (requestType ++ " requires an authenticated user"))
  else pure ()

/-- Accepts no user. -/
def denyAll : Policy σ := fun user requestType =>
  throw (.authorization ("user " ++ user.text ++ " may not issue " ++ requestType))

/-- The state has no part in whether a user is authenticated. -/
theorem authenticated_eq_ofExcept (user : UserId) (requestType : String) :
    (authenticated user requestType : Task σ Unit) = Task.ofExcept (if user.isNil then
      .error (.authorization (requestType ++ " requires an authenticated user")) else .ok ()) := by
  rw [authenticated]
  split
  · rfl
  · rfl

theorem authenticated_of_ne_nil {user : UserId} (h : user ≠ .nil) (requestType : String) :
    (authenticated user requestType : Task σ Unit) = pure () := by
  have : user.isNil = false := by
    rw [Bool.eq_false_iff]
    exact fun hn => h (UserId.isNil_iff.1 hn)
  simp [authenticated, this]

end Policy

end Reminders
