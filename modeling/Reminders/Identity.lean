import Reminders.Failure
import Reminders.Uuid

/-!
# Identities

A request presents an identity: either it is anonymous, or it acts for a user. The nil user id means
that no user was given, so an identified request with the nil id is refused before any policy is
asked.
-/

namespace Reminders

structure UserId where
  uuid : Uuid
deriving DecidableEq, Hashable, Repr

namespace UserId

def nil : UserId := ⟨Uuid.nil⟩

instance : Inhabited UserId := ⟨nil⟩

def isNil (user : UserId) : Bool := user.uuid.isNil

def text (user : UserId) : String := user.uuid.text

instance : ToString UserId := ⟨text⟩

def ofText? (s : String) : Option UserId := (Uuid.ofText? s).map UserId.mk

@[simp] theorem isNil_iff {user : UserId} : user.isNil = true ↔ user = nil := by
  cases user
  simp [isNil, nil]

@[simp] theorem ofText?_text (user : UserId) : ofText? user.text = some user := by
  simp [ofText?, text]

end UserId

inductive Identity where
  /-- The request takes no part in authorization. -/
  | anonymous
  /-- The request acts for this user. -/
  | identified (user : UserId)
deriving DecidableEq, Repr

namespace Identity

/-- The user that must be authorized, if there is one. -/
def require (requestType : String) : Identity → Except Failure (Option UserId)
  | anonymous => .ok none
  | identified user =>
      if user.isNil then .error (.authorization (requestType ++ " carries no user identity"))
      else .ok (some user)

@[simp] theorem require_anonymous (requestType : String) :
    anonymous.require requestType = .ok none := rfl

@[simp] theorem require_nil (requestType : String) :
    (identified .nil).require requestType =
      .error (.authorization (requestType ++ " carries no user identity")) := rfl

theorem require_identified {user : UserId} (h : user ≠ .nil) (requestType : String) :
    (identified user).require requestType = .ok (some user) := by
  have : user.isNil = false := by
    rw [Bool.eq_false_iff]
    exact fun hn => h (UserId.isNil_iff.1 hn)
  simp [require, this]

end Identity

end Reminders
