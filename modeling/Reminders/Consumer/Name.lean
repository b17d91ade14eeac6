import Reminders.Consumer.Fault
import Reminders.Text.Blank

/-!
# Consumer names

A consumer name is the durable name a subscriber is registered under. It is not empty and holds no
blank character, and the type keeps both facts.
-/

namespace Reminders.Consumer

open Text (isBlank)

/-- A text that may name a consumer. -/
structure Name where
  text : String
  ne_empty : text ≠ ""
  not_blank : text.toList.any isBlank = false
deriving DecidableEq, Repr

namespace Name

def ofText (text : String) : Except Fault Name :=
  if empty : text = "" then .error .emptyName
  else if blank : text.toList.any isBlank then .error (.blankName text)
  else .ok ⟨text, empty, by simpa using blank⟩

instance : ToString Name where
  toString name := name.text

@[simp] theorem ofText_text (name : Name) : ofText name.text = .ok name := by
  simp [ofText, name.ne_empty, name.not_blank]

theorem text_of_ofText {text : String} {name : Name} (h : ofText text = .ok name) :
    name.text = text := by
  unfold ofText at h
  split at h
  · simp at h
  · split at h
    · simp at h
    · simp only [Except.ok.injEq] at h
      rw [← h]

/-- Names are told apart by their texts. -/
theorem text_inj {name name' : Name} : name.text = name'.text ↔ name = name' := by
  constructor
  · intro h
    cases name
    cases name'
    cases h
    rfl
  · exact congrArg text

end Name

end Reminders.Consumer
