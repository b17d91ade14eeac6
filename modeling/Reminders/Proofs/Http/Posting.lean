import Reminders.Proofs.Http.Serving
import Reminders.World

/-!
# What a request to set a reminder comes to

A service for reminders alone, over any repository, is sent a request to set a reminder. `Posting`
has one rule for each outcome, told from the request, the shutdown token and the world alone: a body
that is not taken ends it first, then a user id that cannot be read, the shutdown, a missing user,
and a title or time that is not acceptable. Only after all of these is the repository asked, once,
and what it says decides the response.

`respond_iff_posting` says that the service follows these rules and no others. What the repository
is asked is read off the journal of the same service under watch.
-/

namespace Reminders

open Text (trimmed)

namespace World

variable {ρ : Type}

/-- A world from which identifiers have been drawn. -/
def skip (n : Nat) (w : World ρ) : World ρ := { w with drawn := w.drawn + n }

/-- The identifier that is drawn after `n` others. -/
def identifier (n : Nat) (w : World ρ) : Uuid := .random (w.entropy (w.drawn + n))

/-- What the handling of reminders relies on in a world, with any repository. -/
def servicesOf (repository : Repository (World ρ) Reminder) : Services (World ρ) :=
  ⟨(·.now), freshId, repository⟩

end World

namespace Http

variable {C : Catalog} {σ : Type} [Cancellable σ]

/-- A header denotes the user whose id its value is, blanks around it apart. -/
def Header.Denotes (header : Header) (user : UserId) : Prop :=
  ∃ cs, header.text? = some cs ∧ UserId.ofText? (String.ofList (Text.trim cs)) = some user

namespace Request

variable {r : Request}

/-- A request comes from the user that its first user header denotes, and from the nil user if it
has no such header. -/
def IsFrom (r : Request) (user : UserId) : Prop :=
  (Header.find? userIdHeader r.headers = none ∧ user = .nil) ∨
    ∃ header, Header.find? userIdHeader r.headers = some header ∧ header.Denotes user

/-- The first user header of a request denotes no user. -/
def Garbled (r : Request) : Prop :=
  ∃ header, Header.find? userIdHeader r.headers = some header ∧ ∀ user, ¬header.Denotes user

theorem user_of_isFrom {user : UserId} (h : r.IsFrom user) : r.user = .ok user := by
  obtain ⟨absent, rfl⟩ | ⟨header, found, cs, text, denotes⟩ := h
  · rw [Request.user, absent]
  · rw [Request.user, found]
    simp only [text, Option.bind_some, denotes]

theorem user_of_garbled (h : r.Garbled) :
    r.user = .error (.validation "x-user-id header must be a UUID") := by
  obtain ⟨header, found, nobody⟩ := h
  have none : (header.text?.bind fun cs => UserId.ofText? (String.ofList (Text.trim cs))) =
      none := by
    rw [Option.eq_none_iff_forall_ne_some]
    intro user denotes
    rw [Option.bind_eq_some_iff] at denotes
    exact nobody user denotes
  rw [Request.user, found]
  simp only [none]
  rfl

theorem isFrom_or_garbled (r : Request) : (∃ user, r.IsFrom user) ∨ r.Garbled := by
  cases found : Header.find? userIdHeader r.headers with
  | none => exact .inl ⟨.nil, .inl ⟨found, rfl⟩⟩
  | some header =>
      by_cases h : ∃ user, header.Denotes user
      · obtain ⟨user, denotes⟩ := h
        exact .inl ⟨user, .inr ⟨header, found, denotes⟩⟩
      · exact .inr ⟨header, found, fun user denotes => h ⟨user, denotes⟩⟩

end Request

/-- The response to a draft, given what the mediator answers. -/
def Response.answering : Except Failure SetReminder.Outcome → Response
  | .ok outcome => .json 201 outcome.toJson
  | .error f => .ofFailure f

/-- The response that tells of a failure by a status, a code and a message. -/
def problem (status : Nat) (code message : String) : Response :=
  .json status (.object [("error", .text code), ("message", .text message)])

theorem answering_of_failure {f : Failure} {status : Nat} {code message : String}
    (hstatus : Response.statusOf f = status) (hcode : Response.codeOf f = code)
    (hmessage : f.message = message) :
    Response.answering (.error f) = problem status code message := by
  rw [← hstatus, ← hcode, ← hmessage]
  rfl

namespace App

variable {services : Services σ} {app : App C σ} {shutdown : Token} {r : Request} {s s₁ s₂ s' : σ}
variable {correlationId reminderId : Uuid} {draft : Draft} {user : UserId}

/-- A service for reminders alone, in a version of the API. -/
def ofServices (services : Services σ) (version : String) (shutdown : Token) :
    Except Failure (App C σ) := do
  let mediator ← Mediator.initial.registerReminders services version
  return ⟨mediator, services.freshId, shutdown⟩

theorem ofServices_eq_ok_iff {version : String} :
    ofServices services version shutdown = .ok app ↔
      ∃ m, Mediator.initial.registerReminders services version = .ok m ∧
        app = ⟨m, services.freshId, shutdown⟩ := by
  rw [ofServices]
  cases Mediator.initial.registerReminders (C := C) services version with
  | error f => simp [bind, Except.bind]
  | ok m => simp [bind, Except.bind, pure, Except.pure, eq_comm]

theorem exists_ofServices {version : String} {consumer : Consumer.Name}
    (resolved : Reminder.consumer version = .ok consumer) (services : Services σ)
    (shutdown : Token) : ∃ app : App C σ, ofServices services version shutdown = .ok app := by
  obtain ⟨m, registers⟩ := Mediator.exists_registerReminders services resolved
  exact ⟨_, ofServices_eq_ok_iff.mpr ⟨m, registers, rfl⟩⟩

theorem respond_of_post (method : r.method = "POST")
    (route : Route.ofTarget? r.target = some .reminders) (s : σ) :
    (app.respond r).run s = app.post r s := by
  change app.respond r s = _
  simp [respond, route, method, Route.methods]

theorem post_of_rejection {rejection : Rejection} (body : r.draft = .error rejection) :
    app.post r s = (rejection.response, s) := by
  simp only [post, body]

theorem post_of_draft {x : Except Failure SetReminder.Outcome} {response : Response}
    (body : r.draft = .ok draft) (sets : (app.setReminder r.user draft).exec s = (x, s'))
    (answers : Response.answering x = response) : app.post r s = (response, s') := by
  rw [← answers]
  cases x <;> simp only [post, body, sets, Response.answering]

theorem exec_setReminder_of_error {f : Failure} (draft : Draft)
    (first : app.freshId.run s = (correlationId, s₁)) :
    (app.setReminder (.error f) draft).exec s = (.error f, s₁) := by
  refine (Task.exec_bind_of_ok (Task.exec_ofState_of_run first)).trans ?_
  exact Task.exec_bind_of_error (Task.exec_ofExcept _ _)

/-- A draft of a known user is sent to the mediator, with two identifiers drawn for it. -/
theorem exec_setReminder_of_ok (user : UserId) (draft : Draft)
    (first : app.freshId.run s = (correlationId, s₁))
    (second : app.freshId.run s₁ = (reminderId, s₂)) :
    (app.setReminder (.ok user) draft).exec s =
      (app.mediator.send (C := C.withReminders) (k := .setReminder)
        (⟨correlationId, user, reminderId, draft.title, draft.remindAt⟩ : SetReminder)
        app.shutdown).exec s₂ := by
  refine (Task.exec_bind_of_ok (Task.exec_ofState_of_run first)).trans ?_
  refine (Task.exec_bind_of_ok (Task.exec_ofExcept _ _)).trans ?_
  exact Task.exec_bind_of_ok (Task.exec_ofState_of_run second)

end App

variable {ρ : Type}

/-- What a request to set a reminder comes to in a world: the response, the world that is left and
what the repository was asked. Each rule assumes that no earlier one applies. -/
inductive Posting (repository : Repository (World ρ) Reminder) (shutdown : Token) (r : Request)
    (w : World ρ) : Response → World ρ → List Deed → Prop where
  | rejected {rejection : Rejection} (body : r.draft = .error rejection) :
      Posting repository shutdown r w rejection.response w []
  | garbled {draft : Draft} (body : r.draft = .ok draft) (garbled : r.Garbled) :
      Posting repository shutdown r w
        (problem 400 "validation_error" "validation error: x-user-id header must be a UUID")
        (w.skip 1) []
  | cancelled {draft : Draft} {user : UserId} (body : r.draft = .ok draft) (sender : r.IsFrom user)
      (fired : (Cancellable.signals w).isCancelled shutdown = true) :
      Posting repository shutdown r w (problem 503 "cancelled" "operation cancelled") (w.skip 2) []
  | anonymous {draft : Draft} (body : r.draft = .ok draft) (sender : r.IsFrom .nil)
      (live : (Cancellable.signals w).isCancelled shutdown = false) :
      Posting repository shutdown r w
        (problem 401 "authorization_error"
          "authorization error: reminders.set_reminder carries no user identity")
        (w.skip 2) []
  | unacceptable {draft : Draft} {user : UserId} {refusal : Reminder.Refusal}
      (body : r.draft = .ok draft) (sender : r.IsFrom user) (given : user ≠ .nil)
      (live : (Cancellable.signals w).isCancelled shutdown = false)
      (unacceptable : Reminder.Unacceptable draft.title draft.remindAt w.now refusal) :
      Posting repository shutdown r w
        (problem 400 "validation_error" ("validation error: " ++ refusal.message)) (w.skip 2) []
  | failed {draft : Draft} {user : UserId} {reminder : Reminder} {f : Failure} {w' : World ρ}
      (body : r.draft = .ok draft) (sender : r.IsFrom user) (given : user ≠ .nil)
      (live : (Cancellable.signals w).isCancelled shutdown = false)
      (acceptable : Reminder.Acceptable draft.title draft.remindAt w.now)
      (asked : reminder = ⟨w.identifier 1, user, trimmed draft.title, draft.remindAt, w.now⟩)
      (fails : (repository reminder shutdown).exec (w.skip 3) = (.error f, w')) :
      Posting repository shutdown r w
        (problem (Response.statusOf f) (Response.codeOf f) f.message) w'
        [.added reminder shutdown]
  | created {draft : Draft} {user : UserId} {reminder : Reminder} {w' : World ρ}
      (body : r.draft = .ok draft) (sender : r.IsFrom user) (given : user ≠ .nil)
      (live : (Cancellable.signals w).isCancelled shutdown = false)
      (acceptable : Reminder.Acceptable draft.title draft.remindAt w.now)
      (asked : reminder = ⟨w.identifier 1, user, trimmed draft.title, draft.remindAt, w.now⟩)
      (adds : (repository reminder shutdown).exec (w.skip 3) = (.ok (), w')) :
      Posting repository shutdown r w
        (.json 201 (.object [("reminder_id", .text reminder.id.text),
          ("event_id", .text (w.identifier 2).text)]))
        w' [.added reminder shutdown]

/-- A state that carries a world and a journal of what the repository was asked, for services that
work on the world that is carried. -/
structure Carries (services : Services σ) (repository : Repository (World ρ) Reminder)
    (carry : World ρ → List Deed → σ) : Prop where
  freshId : ∀ w journal,
    services.freshId.run (carry w journal) = (w.identifier 0, carry (w.skip 1) journal)
  now : ∀ w journal, services.now (carry w journal) = w.now
  signals : ∀ w journal, Cancellable.signals (carry w journal) = Cancellable.signals w
  repository : ∀ {reminder token w r w'} journal,
    (repository reminder token).exec w = (r, w') →
      (services.repository reminder token).exec (carry w journal) =
        (r, carry w' (journal ++ [.added reminder token]))

variable {repository : Repository (World ρ) Reminder} {carry : World ρ → List Deed → σ}
variable {services : Services σ} {m : Mediator C.withReminders σ} {shutdown : Token} {r : Request}
variable {w w' : World ρ} {response : Response} {journal : List Deed}

theorem carries_world (repository : Repository (World ρ) Reminder) :
    Carries (World.servicesOf repository) repository fun w _ => w where
  freshId _ _ := rfl
  now _ _ := rfl
  signals _ _ := rfl
  repository _ adds := adds

theorem carries_watched (repository : Repository (World ρ) Reminder) :
    Carries (World.servicesOf repository).watched repository fun w journal => ⟨w, journal⟩ where
  freshId _ _ := rfl
  now _ _ := rfl
  signals _ _ := rfl
  repository journal adds := by
    simp only [World.servicesOf, Services.watched, Task.exec_noted, adds]

section Rules

variable (carries : Carries services repository carry) {draft : Draft} {user : UserId} {s : σ}

include carries

/-- The draft of a known user is sent under the second identifier that is drawn. -/
theorem post_of_sent {x : Except Failure SetReminder.Outcome} (body : r.draft = .ok draft)
    (sender : r.IsFrom user)
    (sent : (m.send (C := C.withReminders) (k := .setReminder)
      (⟨w.identifier 0, user, w.identifier 1, draft.title, draft.remindAt⟩ : SetReminder)
      shutdown).exec (carry (w.skip 2) []) = (x, s))
    (answers : Response.answering x = response) :
    App.post ⟨m, services.freshId, shutdown⟩ r (carry w []) = (response, s) := by
  refine App.post_of_draft body ?_ answers
  rw [Request.user_of_isFrom sender, ← sent]
  exact App.exec_setReminder_of_ok user draft (carries.freshId w [])
    (carries.freshId (w.skip 1) [])

variable (alone : m.Alone services)

include alone

/-- An acceptable draft ends as adding its reminder to the repository ends. -/
theorem post_of_asked {reminder : Reminder} {x : Except Failure Unit}
    (body : r.draft = .ok draft) (sender : r.IsFrom user) (given : user ≠ .nil)
    (live : (Cancellable.signals w).isCancelled shutdown = false)
    (acceptable : Reminder.Acceptable draft.title draft.remindAt w.now)
    (asked : reminder = ⟨w.identifier 1, user, trimmed draft.title, draft.remindAt, w.now⟩)
    (adds : (repository reminder shutdown).exec (w.skip 3) = (x, w')) :
    App.post ⟨m, services.freshId, shutdown⟩ r (carry w []) =
      (.answering (x.map fun _ => ⟨reminder.id, w.identifier 2⟩),
        carry w' [.added reminder shutdown]) := by
  have now : services.now (carry (w.skip 2) []) = w.now := carries.now _ _
  have live₂ : (Cancellable.signals (carry (w.skip 2) [])).isCancelled shutdown = false := by
    rw [carries.signals]
    exact live
  have live₃ : (Cancellable.signals (carry (w.skip 3) [])).isCancelled shutdown = false := by
    rw [carries.signals]
    exact live
  have third : services.freshId.run (carry (w.skip 2) []) = (w.identifier 2, carry (w.skip 3) []) :=
    carries.freshId (w.skip 2) []
  rw [← now] at acceptable asked
  have sent := alone.exec_send_of_acceptable
    ⟨w.identifier 0, user, w.identifier 1, draft.title, draft.remindAt⟩ live₂ given acceptable asked
    third live₃ (carries.repository [] adds)
  exact post_of_sent carries body sender sent rfl

/-- A service follows each of the rules. -/
theorem post_of_posting (h : Posting repository shutdown r w response w' journal) :
    App.post ⟨m, services.freshId, shutdown⟩ r (carry w []) = (response, carry w' journal) := by
  have signals : Cancellable.signals (carry (w.skip 2) []) = Cancellable.signals w :=
    carries.signals _ _
  have now : services.now (carry (w.skip 2) []) = w.now := carries.now _ _
  cases h with
  | rejected body => exact App.post_of_rejection body
  | garbled body garbled =>
      refine App.post_of_draft body ?_
        (answering_of_failure (f := .validation "x-user-id header must be a UUID") rfl rfl rfl)
      rw [Request.user_of_garbled garbled]
      exact App.exec_setReminder_of_error _ (carries.freshId w [])
  | cancelled body sender fired =>
      rw [← signals] at fired
      exact post_of_sent carries body sender (Mediator.exec_send_of_cancelled fired)
        (answering_of_failure rfl rfl rfl)
  | anonymous body sender live =>
      rw [← signals] at live
      exact post_of_sent carries body sender (Mediator.exec_send_of_nil live rfl)
        (answering_of_failure rfl rfl rfl)
  | unacceptable body sender given live unacceptable =>
      rw [← signals] at live
      rw [← now] at unacceptable
      exact post_of_sent carries body sender
        (alone.exec_send_of_unacceptable live given unacceptable)
        (answering_of_failure rfl rfl rfl)
  | failed body sender given live acceptable asked fails =>
      exact post_of_asked carries alone body sender given live acceptable asked fails
  | created body sender given live acceptable asked adds =>
      exact post_of_asked carries alone body sender given live acceptable asked adds

end Rules

/-- Some rule applies to every request in every world. -/
theorem exists_posting (repository : Repository (World ρ) Reminder) (shutdown : Token)
    (r : Request) (w : World ρ) :
    ∃ response w' journal, Posting repository shutdown r w response w' journal := by
  cases body : r.draft with
  | error rejection => exact ⟨_, _, _, .rejected body⟩
  | ok draft =>
      obtain ⟨user, sender⟩ | garbled := r.isFrom_or_garbled
      · cases live : (Cancellable.signals w).isCancelled shutdown with
        | true => exact ⟨_, _, _, .cancelled body sender live⟩
        | false =>
            by_cases given : user = .nil
            · subst given
              exact ⟨_, _, _, .anonymous body sender live⟩
            obtain acceptable | ⟨refusal, unacceptable⟩ :=
              Reminder.acceptable_or_unacceptable draft.title draft.remindAt w.now
            · rcases asks : (repository ⟨w.identifier 1, user, trimmed draft.title,
                draft.remindAt, w.now⟩ shutdown).exec (w.skip 3) with ⟨f | _, w'⟩
              · exact ⟨_, _, _, .failed body sender given live acceptable rfl asks⟩
              · exact ⟨_, _, _, .created body sender given live acceptable rfl asks⟩
            · exact ⟨_, _, _, .unacceptable body sender given live unacceptable⟩
      · exact ⟨_, _, _, .garbled body garbled⟩

/-- A service for reminders alone answers a request to set a reminder by the rules of `Posting`,
whatever its repository, the time and the shutdown token. The same service under watch answers the
same, and its journal says what the repository was asked. -/
theorem respond_iff_posting {version : String} {app : App C (World ρ)}
    (built : App.ofServices (World.servicesOf repository) version shutdown = .ok app) :
    ∃ watched : App C (Watched Deed (World ρ)),
      App.ofServices (World.servicesOf repository).watched version shutdown = .ok watched ∧
      ∀ r : Request, r.method = "POST" → Route.ofTarget? r.target = some .reminders →
        ∀ w response w' journal,
          ((app.respond r).run w = (response, w') ∧
            (watched.respond r).run ⟨w, []⟩ = (response, ⟨w', journal⟩)) ↔
          Posting repository shutdown r w response w' journal := by
  obtain ⟨m, registers, rfl⟩ := App.ofServices_eq_ok_iff.mp built
  obtain ⟨consumer, resolved, -⟩ := Mediator.registerReminders_eq_ok_iff.mp registers
  obtain ⟨watched, built'⟩ :=
    App.exists_ofServices (C := C) resolved (World.servicesOf repository).watched shutdown
  refine ⟨watched, built', ?_⟩
  obtain ⟨n, registers', rfl⟩ := App.ofServices_eq_ok_iff.mp built'
  have alone := Mediator.alone_of_registerReminders registers
  have alone' := Mediator.alone_of_registerReminders registers'
  intro r method route w response w' journal
  rw [App.respond_of_post method route, App.respond_of_post method route]
  have follows {response w' journal} (h : Posting repository shutdown r w response w' journal) :=
    And.intro (post_of_posting (carries_world repository) alone h)
      (post_of_posting (carries_watched repository) alone' h)
  constructor
  · rintro ⟨-, answered⟩
    obtain ⟨_, _, _, posting⟩ := exists_posting repository shutdown r w
    cases (follows posting).2.symm.trans answered
    exact posting
  · exact follows

/-- A repository that keeps everything it is given in a list. -/
def keeping : Repository (World (List Reminder)) Reminder :=
  fun reminder _ => modify fun w => { w with store := w.store ++ [reminder] }

/-- A world at the start of 1970, whose random bits are all zero. -/
def daybreak : World (List Reminder) := ⟨.empty, .epoch, fun _ => 0, 0, []⟩

/-- A request for tea a day later, with blanks around the title. -/
def teaRequest : Request :=
  ⟨"POST", "/api/v1/reminders",
    [⟨"Content-Type", "application/json".toUTF8.toList⟩,
      ⟨"X-User-Id", "00000000-0000-0000-0000-000000000003".toUTF8.toList⟩],
    "\x7b\"title\":\" tea \",\"remind_at\":\"1970-01-02T00:00:00Z\"\x7d".toUTF8⟩

/-- The reminder that is set by the request for tea. -/
def tea : Reminder :=
  ⟨.random 0#128, ⟨⟨3#128⟩⟩, "tea", (Timestamp.ofDay? 1 0 0).getD .epoch, .epoch⟩

/-- The request for tea puts one reminder into the repository, and is answered with its id. -/
theorem respond_teaRequest :
    ∃ app watched : App Catalog.empty _,
      App.ofServices (World.servicesOf keeping) "1.0" ⟨0⟩ = .ok app ∧
      App.ofServices (World.servicesOf keeping).watched "1.0" ⟨0⟩ = .ok watched ∧
      ∃ w', w'.store = [tea] ∧
        (app.respond teaRequest).run daybreak =
          (.json 201 (.object [("reminder_id", .text tea.id.text),
            ("event_id", .text (Uuid.random 0).text)]), w') ∧
        ((watched.respond teaRequest).run ⟨daybreak, []⟩).2.journal = [.added tea ⟨0⟩] := by
  have resolved : Reminder.consumer "1.0" = .ok ⟨"Reminder_v1_ReminderSet", by decide, by decide⟩ :=
    by decide +kernel
  obtain ⟨app, built⟩ :=
    App.exists_ofServices (C := Catalog.empty) resolved (World.servicesOf keeping) ⟨0⟩
  obtain ⟨watched, built', answered_iff⟩ := respond_iff_posting built
  have body : teaRequest.draft = .ok ⟨" tea ", tea.remindAt⟩ := by decide +kernel
  have sender : teaRequest.IsFrom ⟨⟨3⟩⟩ := by
    refine .inr ⟨⟨"X-User-Id", "00000000-0000-0000-0000-000000000003".toUTF8.toList⟩,
      by decide +kernel, "00000000-0000-0000-0000-000000000003".toList, ?_, ?_⟩
    · decide +kernel
    · decide +kernel
  have acceptable : Reminder.Acceptable " tea " tea.remindAt .epoch :=
    ⟨by decide +kernel, by decide +kernel, by decide⟩
  have asked : tea = ⟨daybreak.identifier 1, ⟨⟨3⟩⟩, trimmed " tea ", tea.remindAt, .epoch⟩ := by
    decide +kernel
  have posting : Posting keeping ⟨0⟩ teaRequest daybreak _ _ _ :=
    .created body sender (by decide) rfl acceptable asked rfl
  obtain ⟨answered, answered'⟩ :=
    (answered_iff teaRequest rfl (by decide +kernel) daybreak _ _ _).mpr posting
  refine ⟨app, watched, built, built', _, ?_, answered, ?_⟩
  · rfl
  · rw [answered']

end Http

end Reminders
