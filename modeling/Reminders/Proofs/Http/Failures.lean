import Reminders.Http.Message
import Reminders.Proofs.Json.Rendering

/-!
# What a failed request is answered

The response to a failure tells all of it. Its body is a JSON text of an object with a code and a
message, the message being that of the failure word for word, whatever characters are in it. The
code tells the kind of the failure, and of one kind no two failures have the same message
(`Failure.eq_of_codeOf`), so the response tells the failure.
-/

namespace Reminders

open Http.Response (codeOf statusOf)

namespace Failure

variable {f g : Failure}

/-- The code tells which failure it is, and the message what it says. -/
theorem eq_of_codeOf (code : codeOf f = codeOf g) (message : f.message = g.message) : f = g := by
  cases f <;> cases g <;> simp_all [codeOf, String.append_right_inj]

end Failure

namespace Http.Response

open Json (Tree)

/-- The tree of the body of a response to a failure. -/
theorem denotes_ofFailure_iff {f : Failure} {t : Tree} :
    Json.Grammar.Denotes (ofFailure f).body.toList t ↔
      t = .object [("error", .text (codeOf f)), ("message", .text f.message)] :=
  Json.Value.denotes_render_iff

example : (ofFailure (.validation "\"\x01\\")).body =
    "\x7b\"error\":\"validation_error\",\"message\":\"validation error: \\\"\\u0001\\\\\"\x7d" := by
  decide +kernel

/-- Error responses lose nothing. For every failure, with any characters in its message, the body of
the response is a JSON text of one object, which has a code and the message word for word and
nothing else. Failures that are answered by the same status and the same body are the same. -/
theorem ofFailure_lossless (f : Failure) :
    (∀ t, Json.Grammar.Denotes (ofFailure f).body.toList t ↔
      t = .object [("error", .text (codeOf f)), ("message", .text f.message)]) ∧
    ∀ g, (ofFailure f).status = (ofFailure g).status → (ofFailure f).body = (ofFailure g).body →
      f = g := by
  refine ⟨fun t => denotes_ofFailure_iff, ?_⟩
  intro g _ body
  have same := denotes_ofFailure_iff (f := g).mp (body ▸ denotes_ofFailure_iff (f := f).mpr rfl)
  simp only [Tree.object.injEq, List.cons.injEq, Prod.mk.injEq, Tree.text.injEq, true_and,
    and_true] at same
  exact Failure.eq_of_codeOf same.1 same.2

end Http.Response

end Reminders
