import Reminders.Proofs.Http.Shutdown
import Reminders.Proofs.Mediator.Watch
import Reminders.Proofs.Reminder.Forgetting
import Reminders.Proofs.Uuid

/-!
# Who a post comes from

The first user header of a post names a user, in any of the written forms of the user's id. A
service looks at the value that is spelled and at nothing else of the header. Whatever is registered
with its mediator, it answers two requests alike that differ only in how they spell a user; and a
header that spells no user, or spells the nil user in whatever way, ends a post before anything
registered is called (`App.TurnsAway`, `App.ReadsUser`).

Two runs of a service make different identifiers. `Agree` compares what they answer and what they
ask of their repositories up to these: the rules of `Posting` that apply to one run apply to the
other (`Posting.exists_agreeing`). `AgreeInStore` compares what they answer and what their stores
hold: a post that is answered with 201 has its reminder stored, and any other leaves the store as it
is (`Posting.stored`).
-/

namespace Reminders

namespace World

variable {ρ : Type}

/-- Worlds that differ at most in the identifiers that will be drawn. -/
structure AlikeButIds (w w' : World ρ) : Prop where
  tokens : w.tokens = w'.tokens
  now : w.now = w'.now
  store : w.store = w'.store

namespace AlikeButIds

variable {w w' : World ρ}

theorem signals (h : w.AlikeButIds w') : Cancellable.signals w = Cancellable.signals w' :=
  congrArg Tokens.signals h.tokens

theorem skip (h : w.AlikeButIds w') (n : Nat) : (w.skip n).AlikeButIds (w'.skip n) :=
  ⟨h.tokens, h.now, h.store⟩

end AlikeButIds

end World

/-- What a repository answers does not depend on identifiers, neither on that of the reminder nor on
those that will be drawn. -/
theorem Backing.exists_exec_of_alikeButIds {b : Backing} {w w' v : World b.Store}
    {reminder : Reminder} {token : Token} {x : Except Failure Unit} (alike : w.AlikeButIds w')
    (adds : (b.repository reminder token).exec w = (x, v)) (id : Uuid) :
    ∃ v', (b.repository { reminder with id } token).exec w' = (x, v') := by
  have same : ((b.repository { reminder with id } token).exec w').1 =
      ((b.repository reminder token).exec w).1 := by
    cases b with
    | failing => rfl
    | recording =>
        simp only [repository, Repository.exec_within, Recording.answer_add, alike.signals]
    | inMemory =>
        simp only [repository, Repository.exec_within, InMemory.answer_add, alike.signals,
          alike.store]
  rw [adds] at same
  exact ⟨((b.repository { reminder with id } token).exec w').2, Prod.ext same rfl⟩

/-- What a store holds when its repository has been asked for all that is in a journal. -/
def Backing.after (b : Backing) (w : World b.Store) : List Deed → b.Store
  | [] => w.store
  | .added reminder token :: deeds => b.after ((b.repository reminder token).exec w).2 deeds
  | .published _ _ :: deeds => b.after w deeds

/-- What is added to a store does not depend on the identifiers to come. -/
theorem Backing.store_exec_skip {b : Backing} (reminder : Reminder) (token : Token) (n : Nat)
    (w : World b.Store) :
    ((b.repository reminder token).exec (w.skip n)).2.store =
      ((b.repository reminder token).exec w).2.store := by
  cases b <;> rfl

/-- A store takes in a reminder and nothing else. A recording store has it at its end, and so does a
store in memory, unless that has the id already. -/
def Backing.Gains : (b : Backing) → b.Store → Reminder → b.Store → Prop
  | failing, _, _, _ => False
  | recording, store, reminder, store' => store'.added.toList = store.added.toList ++ [reminder]
  | inMemory, store, reminder, store' =>
      store'.entities.toList =
        store.entities.toList ++ if reminder.id ∈ store.ids then [] else [reminder]

/-- A repository that accepts a reminder stores it. -/
theorem Backing.gains_of_ok {b : Backing} {w w' : World b.Store} {reminder : Reminder}
    {token : Token} (adds : (b.repository reminder token).exec w = (.ok (), w')) :
    b.Gains w.store reminder w'.store := by
  cases b with
  | failing => cases adds
  | recording =>
      simp only [repository, Repository.exec_within, Recording.add] at adds
      split at adds
      · cases adds
      · cases adds
        exact Array.toList_push
  | inMemory =>
      simp only [repository, Repository.exec_within, InMemory.add] at adds
      simp only [Gains]
      split at adds
      · cases adds
      · split at adds
        · cases adds
        · split at adds
          · next known =>
              cases adds
              rw [if_pos (show reminder.id ∈ w.store.ids from known), List.append_nil]
          · next new =>
              cases adds
              rw [if_neg (show reminder.id ∉ w.store.ids from new)]
              exact Array.toList_push

/-- A repository that refuses a reminder stores nothing. -/
theorem Backing.store_of_error {b : Backing} {w w' : World b.Store} {reminder : Reminder}
    {token : Token} {f : Failure} (fails : (b.repository reminder token).exec w = (.error f, w')) :
    w'.store = w.store := by
  cases b with
  | failing => rfl
  | recording =>
      simp only [repository, Repository.exec_within, Recording.add] at fails
      split at fails
      · cases fails
        rfl
      · cases fails
  | inMemory =>
      simp only [repository, Repository.exec_within, InMemory.add] at fails
      split at fails
      · cases fails
        rfl
      · split at fails
        · cases fails
          rfl
        · split at fails
          · cases fails
          · cases fails

namespace Http

open Text (trimmed)

variable {C : Catalog} {σ : Type}

/-- A header spells a user: blanks around it apart, it is one of the forms of the user's id, in
letters of either case. -/
def Header.Spells (header : Header) (user : UserId) : Prop :=
  ∃ cs, header.text? = some cs ∧ (Text.trim cs).map Char.toLower ∈ user.uuid.forms

theorem Header.denotes_iff_spells {header : Header} {user : UserId} :
    header.Denotes user ↔ header.Spells user := by
  simp only [Denotes, Spells, UserId.ofText?_eq_some_iff, String.toList_ofList]

namespace Request

variable {r r' : Request} {user : UserId}

/-- A request names a user in its first user header. -/
def Names (r : Request) (user : UserId) : Prop :=
  ∃ header, Header.find? userIdHeader r.headers = some header ∧ header.Spells user

/-- The first user header of a request spells no user. -/
def Misnames (r : Request) : Prop :=
  ∃ header, Header.find? userIdHeader r.headers = some header ∧ ∀ user, ¬header.Spells user

/-- Requests that differ at most in their user headers. -/
structure AlikeButUser (r r' : Request) : Prop where
  method : r.method = r'.method
  target : r.target = r'.target
  headers : r.headers.filter (·.name.toLower ≠ userIdHeader) =
    r'.headers.filter (·.name.toLower ≠ userIdHeader)
  body : r.body = r'.body

theorem Names.isFrom (h : r.Names user) : r.IsFrom user := by
  obtain ⟨header, found, spells⟩ := h
  exact .inr ⟨header, found, Header.denotes_iff_spells.mpr spells⟩

theorem Misnames.garbled (h : r.Misnames) : r.Garbled := by
  obtain ⟨header, found, nobody⟩ := h
  refine ⟨header, found, ?_⟩
  intro user denotes
  exact nobody user (Header.denotes_iff_spells.mp denotes)

theorem IsFrom.unique {user' : UserId} (h : r.IsFrom user) (h' : r.IsFrom user') : user = user' :=
  Except.ok.inj ((user_of_isFrom h).symm.trans (user_of_isFrom h'))

theorem IsFrom.not_garbled (h : r.IsFrom user) : ¬r.Garbled := by
  intro garbled
  have read := user_of_isFrom h
  rw [user_of_garbled garbled] at read
  exact nomatch read

namespace AlikeButUser

/-- Headers of other names are found in the same places. -/
theorem find?_eq (h : r.AlikeButUser r') {name : String} (other : name ≠ userIdHeader) :
    Header.find? name r.headers = Header.find? name r'.headers := by
  have spared (headers : List Header) :
      Header.find? name (headers.filter (·.name.toLower ≠ userIdHeader)) =
        Header.find? name headers := by
    rw [Header.find?, Header.find?, List.find?_filter]
    congr 1
    funext header
    by_cases named : header.name.toLower = name
    · simp [named, other]
    · simp [named]
  rw [← spared, h.headers, spared]

theorem draft_eq (h : r.AlikeButUser r') : r.draft = r'.draft := by
  rw [draft, draft, isJson, isJson, h.find?_eq (by decide), h.body]

end AlikeButUser

end Request

namespace App

/-- A state from which identifiers have been drawn. -/
def drawing (app : App C σ) (n : Nat) (s : σ) : σ := (fun s => (app.freshId.run s).2)^[n] s

/-- A service in which every call of something registered is entered in a journal. -/
def traced (app : App C σ) : App C (Watched (Call C.withReminders σ) σ) where
  mediator := app.mediator.traced
  freshId := fun w => ((app.freshId.run w.state).1, { w with state := (app.freshId.run w.state).2 })
  shutdown := app.shutdown

theorem drawing_traced (app : App C σ) (n : Nat) (s : σ)
    (journal : List (Call C.withReminders σ)) :
    app.traced.drawing n ⟨s, journal⟩ = ⟨app.drawing n s, journal⟩ := by
  induction n generalizing s with
  | zero => rfl
  | succ n ih => exact ih _

variable [Cancellable σ] {app : App C σ} {r : Request} {draft : Draft}

/-- A service answers a request without having called anything that is registered: no policy, no
handler and no subscriber. All that it does is to draw some identifiers. -/
structure TurnsAway (app : App C σ) (r : Request) (n : Nat) (response : Response) (s : σ) :
    Prop where
  answer : (app.respond r).run s = (response, app.drawing n s)
  uncalled : (app.traced.respond r).run ⟨s, []⟩ = (response, ⟨app.drawing n s, []⟩)

/-- What a service makes of the user header of a request. -/
structure ReadsUser (app : App C σ) : Prop where
  spelling : ∀ {r r' user}, r.AlikeButUser r' → r.Names user → r'.Names user →
    ∀ s, (app.respond r).run s = (app.respond r').run s
  rejected : ∀ {r rejection}, r.Asks "POST" .reminders → r.draft = .error rejection →
    ∀ s, app.TurnsAway r 0 rejection.response s
  misnamed : ∀ {r draft}, r.Asks "POST" .reminders → r.draft = .ok draft → r.Misnames →
    ∀ s, app.TurnsAway r 1
      (problem 400 "validation_error" "validation error: x-user-id header must be a UUID") s
  nobody : ∀ {r draft}, r.Asks "POST" .reminders → r.draft = .ok draft → r.Names .nil →
    ∀ s, app.TurnsAway r 2
      (if (Cancellable.signals (app.drawing 2 s)).isCancelled app.shutdown then
        problem 503 "cancelled" "operation cancelled"
      else problem 401 "authorization_error"
        "authorization error: reminders.set_reminder carries no user identity") s

theorem respond_of_rejected {rejection : Rejection} (posts : r.Asks "POST" .reminders)
    (body : r.draft = .error rejection) (s : σ) :
    (app.respond r).run s = (rejection.response, app.drawing 0 s) := by
  rw [respond_of_post posts.method posts.route]
  exact post_of_rejection body

theorem respond_of_misnamed (posts : r.Asks "POST" .reminders) (body : r.draft = .ok draft)
    (misnamed : r.Misnames) (s : σ) :
    (app.respond r).run s =
      (problem 400 "validation_error" "validation error: x-user-id header must be a UUID",
        app.drawing 1 s) := by
  rw [respond_of_post posts.method posts.route]
  refine post_of_draft body ?_
    (answering_of_failure (f := .validation "x-user-id header must be a UUID") rfl rfl rfl)
  rw [Request.user_of_garbled misnamed.garbled]
  exact exec_setReminder_of_error draft rfl

theorem respond_of_nobody (posts : r.Asks "POST" .reminders) (body : r.draft = .ok draft)
    (nobody : r.Names .nil) (s : σ) :
    (app.respond r).run s =
      (if (Cancellable.signals (app.drawing 2 s)).isCancelled app.shutdown then
        problem 503 "cancelled" "operation cancelled"
      else problem 401 "authorization_error"
        "authorization error: reminders.set_reminder carries no user identity",
        app.drawing 2 s) := by
  rw [respond_of_post posts.method posts.route]
  cases fired : (Cancellable.signals (app.drawing 2 s)).isCancelled app.shutdown with
  | true =>
      refine post_of_draft body ?_ (answering_of_failure (f := .cancelled) rfl rfl rfl)
      rw [Request.user_of_isFrom nobody.isFrom, exec_setReminder_of_ok .nil draft rfl rfl]
      exact Mediator.exec_send_of_cancelled fired
  | false =>
      refine post_of_draft body ?_ (answering_of_failure
        (f := .authorization "reminders.set_reminder carries no user identity") rfl rfl rfl)
      rw [Request.user_of_isFrom nobody.isFrom, exec_setReminder_of_ok .nil draft rfl rfl]
      exact Mediator.exec_send_of_nil fired rfl

theorem reads_user (app : App C σ) : app.ReadsUser where
  spelling alike names names' s := by
    have user := (Request.user_of_isFrom names.isFrom).trans
      (Request.user_of_isFrom names'.isFrom).symm
    change app.respond _ s = app.respond _ s
    simp only [respond, post, alike.method, alike.target, alike.draft_eq, user]
  rejected posts body s := by
    refine ⟨respond_of_rejected posts body s, ?_⟩
    rw [respond_of_rejected posts body, drawing_traced]
  misnamed posts body misnamed s := by
    refine ⟨respond_of_misnamed posts body misnamed s, ?_⟩
    rw [respond_of_misnamed posts body misnamed, drawing_traced]
  nobody posts body nobody s := by
    refine ⟨respond_of_nobody posts body nobody s, ?_⟩
    rw [respond_of_nobody posts body nobody, drawing_traced]
    rfl

end App

variable {ρ : Type} {shutdown : Token} {user : UserId}

/-- The response to a post whose reminder has been set. -/
def Response.created (reminderId eventId : Uuid) : Response :=
  .json 201 (.object [("reminder_id", .text reminderId.text), ("event_id", .text eventId.text)])

/-- What two runs answer and what they ask of their repositories agree up to the identifiers that
were made: either nobody is asked, or both are asked to add a reminder of the user, and it is the
same one but for its id. -/
inductive Agree (shutdown : Token) (user : UserId) :
    Response × List Deed → Response × List Deed → Prop where
  | turnedAway {response : Response} (status : response.status ≠ 201) :
      Agree shutdown user (response, []) (response, [])
  | failed {response : Response} {reminder : Reminder} {id : Uuid} (status : response.status ≠ 201)
      (given : user ≠ .nil) (owner : reminder.user = user) :
      Agree shutdown user (response, [.added reminder shutdown])
        (response, [.added { reminder with id } shutdown])
  | created {reminder : Reminder} {id eventId eventId' : Uuid} (given : user ≠ .nil)
      (owner : reminder.user = user) :
      Agree shutdown user (.created reminder.id eventId, [.added reminder shutdown])
        (.created id eventId', [.added { reminder with id } shutdown])

/-- What two runs from the same store answer and what they leave in it agree up to the identifiers
that were made: either the store stays as it was, or both have taken in a reminder of the user, and
it is the same one but for its id. -/
inductive AgreeInStore (b : Backing) (user : UserId) (store : b.Store) :
    Response × b.Store → Response × b.Store → Prop
  | kept {response : Response} (status : response.status ≠ 201) :
      AgreeInStore b user store (response, store) (response, store)
  | stored {reminder : Reminder} {id eventId eventId' : Uuid} {store₁ store₂ : b.Store}
      (given : user ≠ .nil) (owner : reminder.user = user) (gains : b.Gains store reminder store₁)
      (gains' : b.Gains store { reminder with id } store₂) :
      AgreeInStore b user store (.created reminder.id eventId, store₁)
        (.created id eventId', store₂)

theorem Rejection.status_ne_created (rejection : Rejection) : rejection.response.status ≠ 201 := by
  cases rejection <;> decide

theorem Response.statusOf_ne_created (f : Failure) : statusOf f ≠ 201 := by
  cases f <;> simp [statusOf]

/-- A rule that applies to a request applies to one that differs in the spelling of its user, in a
world that differs in the identifiers to come. -/
theorem Posting.exists_agreeing {b : Backing} {r r' : Request} {w w' v : World b.Store}
    {response : Response} {journal : List Deed}
    (h : Posting b.repository shutdown r w response v journal) (alike : r.AlikeButUser r')
    (names : r.Names user) (names' : r'.Names user) (worlds : w.AlikeButIds w') :
    ∃ response' v' journal', Posting b.repository shutdown r' w' response' v' journal' ∧
      Agree shutdown user (response, journal) (response', journal') := by
  have sender' := names'.isFrom
  have same {user'} (sender : r.IsFrom user') : user' = user := sender.unique names.isFrom
  cases h with
  | rejected body =>
      rw [alike.draft_eq] at body
      exact ⟨_, _, _, .rejected body, .turnedAway (Rejection.status_ne_created _)⟩
  | garbled body garbled => exact absurd garbled names.isFrom.not_garbled
  | cancelled body sender fired =>
      rw [alike.draft_eq] at body
      rw [worlds.signals] at fired
      exact ⟨_, _, _, .cancelled body sender' fired, .turnedAway (by simp)⟩
  | anonymous body sender live =>
      cases same sender
      rw [alike.draft_eq] at body
      rw [worlds.signals] at live
      exact ⟨_, _, _, .anonymous body sender' live, .turnedAway (by simp)⟩
  | unacceptable body sender given live unacceptable =>
      cases same sender
      rw [alike.draft_eq] at body
      rw [worlds.signals] at live
      rw [worlds.now] at unacceptable
      exact ⟨_, _, _, .unacceptable body sender' given live unacceptable, .turnedAway (by simp)⟩
  | failed body sender given live acceptable asked fails =>
      cases same sender
      obtain ⟨v', fails'⟩ :=
        Backing.exists_exec_of_alikeButIds (worlds.skip 3) fails (w'.identifier 1)
      subst asked
      rw [alike.draft_eq] at body
      rw [worlds.signals] at live
      rw [worlds.now] at acceptable
      exact ⟨_, v', _, .failed body sender' given live acceptable (by rw [worlds.now]) fails',
        .failed (Response.statusOf_ne_created _) given rfl⟩
  | created body sender given live acceptable asked adds =>
      cases same sender
      obtain ⟨v', adds'⟩ :=
        Backing.exists_exec_of_alikeButIds (worlds.skip 3) adds (w'.identifier 1)
      subst asked
      rw [alike.draft_eq] at body
      rw [worlds.signals] at live
      rw [worlds.now] at acceptable
      exact ⟨_, v', _, .created body sender' given live acceptable (by rw [worlds.now]) adds',
        .created given rfl⟩

/-- A store changes by what its repository is asked, and by nothing else. -/
theorem Posting.store_eq {b : Backing} {r : Request} {w w' : World b.Store} {response : Response}
    {journal : List Deed} (h : Posting b.repository shutdown r w response w' journal) :
    w'.store = b.after w journal := by
  cases h with
  | rejected | garbled | cancelled | anonymous | unacceptable => rfl
  | @failed _ _ reminder _ _ _ _ _ _ _ _ adds | @created _ _ reminder _ _ _ _ _ _ _ adds =>
      have stored := Backing.store_exec_skip reminder shutdown 3 w
      rw [adds] at stored
      exact stored

/-- A post has its reminder stored if it is answered with 201, and stores nothing otherwise. -/
theorem Posting.stored {b : Backing} {r : Request} {w w' : World b.Store} {response : Response}
    {journal : List Deed} (h : Posting b.repository shutdown r w response w' journal) :
    (response.status ≠ 201 ∧ w'.store = w.store) ∨
      ∃ reminder, response.status = 201 ∧ journal = [.added reminder shutdown] ∧
        b.Gains w.store reminder w'.store := by
  cases h with
  | rejected => exact .inl ⟨Rejection.status_ne_created _, rfl⟩
  | garbled | cancelled | anonymous | unacceptable => exact .inl ⟨by simp, rfl⟩
  | failed body sender given live acceptable asked fails =>
      exact .inl ⟨Response.statusOf_ne_created _, Backing.store_of_error (w := w.skip 3) fails⟩
  | @created _ _ reminder _ body sender given live acceptable asked adds =>
      exact .inr ⟨reminder, rfl, rfl, Backing.gains_of_ok (w := w.skip 3) adds⟩

/-- Runs that agree in what they ask for agree in what is stored. -/
theorem Agree.inStore {b : Backing} {r r' : Request} {w w' v v' : World b.Store}
    {response response' : Response} {journal journal' : List Deed}
    (agree : Agree shutdown user (response, journal) (response', journal'))
    (h : Posting b.repository shutdown r w response v journal)
    (h' : Posting b.repository shutdown r' w' response' v' journal') (same : w.store = w'.store) :
    AgreeInStore b user w.store (response, v.store) (response', v'.store) := by
  have stored := h.stored
  have stored' := h'.stored
  rw [← same] at stored'
  cases agree with
  | turnedAway status | failed status =>
      rcases stored with ⟨-, kept⟩ | ⟨_, created, -⟩
      · rcases stored' with ⟨-, kept'⟩ | ⟨_, created, -⟩
        · rw [kept, kept']
          exact .kept status
        · exact absurd created status
      · exact absurd created status
  | created given owner =>
      rcases stored with ⟨status, -⟩ | ⟨_, -, ⟨⟩, gains⟩
      · exact absurd rfl status
      · rcases stored' with ⟨status, -⟩ | ⟨_, -, ⟨⟩, gains'⟩
        · exact absurd rfl status
        · exact .stored given owner gains gains'

namespace App

/-- What a service answers in a world, and the store that it leaves. -/
def effect (app : App C (World ρ)) (r : Request) (w : World ρ) : Response × ρ :=
  (((app.respond r).run w).1, ((app.respond r).run w).2.store)

/-- What a service under watch answers in a world, and what it asks of its repository. -/
def outcome (watched : App C (Watched Deed (World ρ))) (r : Request) (w : World ρ) :
    Response × List Deed :=
  (((watched.respond r).run ⟨w, []⟩).1, ((watched.respond r).run ⟨w, []⟩).2.journal)

/-- A service under watch tells of every post how the service answers it and what its store holds
afterwards. -/
def ToldBy {b : Backing} (app : App C (World b.Store))
    (watched : App C (Watched Deed (World b.Store))) : Prop :=
  ∀ {r : Request}, r.Asks "POST" .reminders → ∀ w,
    ((app.respond r).run w).1 = (watched.outcome r w).1 ∧
      ((app.respond r).run w).2.store = b.after w (watched.outcome r w).2

variable {repository : Repository (World ρ) Reminder} {version : String} {app : App C (World ρ)}

/-- A service follows the rules of a post, and so does the same service under watch. -/
theorem exists_watched_of_ofServices
    (built : ofServices (World.servicesOf repository) version shutdown = .ok app) :
    ∃ watched, ofServices (C := C) (World.servicesOf repository).watched version shutdown =
        .ok watched ∧
      ∀ {r : Request}, r.Asks "POST" .reminders → ∀ {w response w' journal},
        Posting repository shutdown r w response w' journal →
          (app.respond r).run w = (response, w') ∧ watched.outcome r w = (response, journal) := by
  obtain ⟨m, registers, rfl⟩ := ofServices_eq_ok_iff.mp built
  obtain ⟨consumer, resolved, -⟩ := Mediator.registerReminders_eq_ok_iff.mp registers
  obtain ⟨watched, built'⟩ :=
    exists_ofServices (C := C) resolved (World.servicesOf repository).watched shutdown
  refine ⟨watched, built', ?_⟩
  obtain ⟨n, registers', rfl⟩ := ofServices_eq_ok_iff.mp built'
  intro r posts w response w' journal posting
  have answered := post_of_posting (carries_world repository)
    (Mediator.alone_of_registerReminders registers) posting
  have answered' := post_of_posting (carries_watched repository)
    (Mediator.alone_of_registerReminders registers') posting
  rw [outcome, respond_of_post posts.method posts.route, respond_of_post posts.method posts.route,
    answered, answered']
  exact ⟨rfl, rfl⟩

theorem drawing_of_ofServices
    (built : ofServices (World.servicesOf repository) version shutdown = .ok app) (n : Nat)
    (w : World ρ) : (app.drawing n w).store = w.store := by
  obtain ⟨m, -, rfl⟩ := ofServices_eq_ok_iff.mp built
  induction n generalizing w with
  | zero => rfl
  | succ n ih => exact ih _

end App

/-- The sender of a post is told by the value in its user header, and not by how that is spelled. An
id that is printed reads back. Any service whatever answers requests that spell the same user alike,
and turns away a post that spells no user or the nil user before anything registered is called. A
service for reminders then keeps its store as it was. Under watch it tells what it answers and what
it stores. In two worlds whose identifiers differ it answers such requests alike up to identifiers,
and if it answers with 201 its store has taken in a reminder of the user, the same one both times
but for its id. -/
theorem sender_by_value {b : Backing} {version : String} {app : App C (World b.Store)}
    (built : App.ofServices b.services version shutdown = .ok app) :
    (∀ user : UserId, UserId.ofText? user.text = some user) ∧
      (∀ {σ : Type} [Cancellable σ] (any : App C σ), any.ReadsUser) ∧
      (∀ n w, (app.drawing n w).store = w.store) ∧
      ∃ watched : App C (Watched Deed (World b.Store)),
        App.ofServices b.services.watched version shutdown = .ok watched ∧ app.ToldBy watched ∧
        ∀ {r r' user}, r.Asks "POST" .reminders → r.AlikeButUser r' → r.Names user →
          r'.Names user → ∀ {w w' : World b.Store}, w.AlikeButIds w' →
            Agree shutdown user (watched.outcome r w) (watched.outcome r' w') ∧
              AgreeInStore b user w.store (app.effect r w) (app.effect r' w') := by
  refine ⟨UserId.ofText?_text, fun app => app.reads_user, App.drawing_of_ofServices built, ?_⟩
  obtain ⟨watched, built', follows⟩ := App.exists_watched_of_ofServices built
  refine ⟨watched, built', ?_, ?_⟩
  · intro r posts w
    obtain ⟨_, _, _, posting⟩ := exists_posting b.repository shutdown r w
    obtain ⟨answered, outcome⟩ := follows posts posting
    rw [answered, outcome]
    exact ⟨rfl, posting.store_eq⟩
  · intro r r' user posts alike names names' w w' worlds
    have posts' : r'.Asks "POST" .reminders :=
      ⟨alike.method.symm.trans posts.method, alike.target ▸ posts.route⟩
    obtain ⟨_, _, _, posting⟩ := exists_posting b.repository shutdown r w
    obtain ⟨_, _, _, posting', agree⟩ := posting.exists_agreeing alike names names' worlds
    obtain ⟨answered, outcome⟩ := follows posts posting
    obtain ⟨answered', outcome'⟩ := follows posts' posting'
    rw [outcome, outcome', App.effect, App.effect, answered, answered']
    exact ⟨agree, agree.inStore posting posting' worlds.store⟩

/-- The request for tea with another user header, which stands first. -/
def teaRequestOf (value : String) : Request :=
  { teaRequest with headers := ⟨"x-user-id", value.toUTF8.toList⟩ :: teaRequest.headers }

/-- A URN in capital letters spells the user that 32 digits spell. Both requests are answered with
201 and leave a reminder of the user in an empty store. Zeros in braces spell nobody. -/
theorem agree_teaRequestOf :
    ∃ app : App Catalog.empty _, ∃ watched : App Catalog.empty _,
      App.ofServices Backing.inMemory.services "1.0" ⟨0⟩ = .ok app ∧
      App.ofServices Backing.inMemory.services.watched "1.0" ⟨0⟩ = .ok watched ∧
      Agree ⟨0⟩ ⟨⟨0xE⟩⟩
        (watched.outcome (teaRequestOf "0000000000000000000000000000000e")
          (.start .epoch 0 .empty))
        (watched.outcome (teaRequestOf " URN:UUID:00000000-0000-0000-0000-00000000000E ")
          (.start .epoch 1 .empty)) ∧
      (∃ (reminder : Reminder) (id eventId eventId' : Uuid) (store store' : InMemory Reminder),
        reminder.user = ⟨⟨0xE⟩⟩ ∧
        app.effect (teaRequestOf "0000000000000000000000000000000e") (.start .epoch 0 .empty) =
          (.created reminder.id eventId, store) ∧
        store.entities.toList = [reminder] ∧
        app.effect (teaRequestOf " URN:UUID:00000000-0000-0000-0000-00000000000E ")
            (.start .epoch 1 .empty) = (.created id eventId', store') ∧
        store'.entities.toList = [{ reminder with id }]) ∧
      app.TurnsAway (teaRequestOf "\x7b00000000-0000-0000-0000-000000000000\x7d") 2
        (problem 401 "authorization_error"
          "authorization error: reminders.set_reminder carries no user identity")
        (.start .epoch 0 .empty) := by
  have resolved : Reminder.consumer "1.0" = .ok ⟨"Reminder_v1_ReminderSet", by decide, by decide⟩ :=
    by decide +kernel
  obtain ⟨app, built⟩ :=
    App.exists_ofServices (C := Catalog.empty) resolved Backing.inMemory.services ⟨0⟩
  obtain ⟨-, reads, -, watched, built', -, agrees⟩ := sender_by_value built
  have posts (value : String) : (teaRequestOf value).Asks "POST" .reminders :=
    ⟨rfl, (by decide +kernel : Route.ofTarget? "/api/v1/reminders" = some .reminders)⟩
  have bare : (teaRequestOf "0000000000000000000000000000000e").Names ⟨⟨0xE⟩⟩ :=
    ⟨⟨"x-user-id", "0000000000000000000000000000000e".toUTF8.toList⟩, by decide +kernel,
      "0000000000000000000000000000000e".toList, by decide +kernel, by decide +kernel⟩
  have urn : (teaRequestOf " URN:UUID:00000000-0000-0000-0000-00000000000E ").Names ⟨⟨0xE⟩⟩ :=
    ⟨⟨"x-user-id", " URN:UUID:00000000-0000-0000-0000-00000000000E ".toUTF8.toList⟩,
      by decide +kernel, " URN:UUID:00000000-0000-0000-0000-00000000000E ".toList,
      by decide +kernel, by decide +kernel⟩
  have nobody : (teaRequestOf "\x7b00000000-0000-0000-0000-000000000000\x7d").Names .nil :=
    ⟨⟨"x-user-id", "\x7b00000000-0000-0000-0000-000000000000\x7d".toUTF8.toList⟩,
      by decide +kernel, "\x7b00000000-0000-0000-0000-000000000000\x7d".toList,
      by decide +kernel, by decide +kernel⟩
  have body (value : String) : (teaRequestOf value).draft = .ok ⟨" tea ", tea.remindAt⟩ := by
    have spared : ¬decide ("x-user-id".toLower ≠ userIdHeader) = true := by decide +kernel
    have same : (teaRequestOf value).AlikeButUser teaRequest :=
      ⟨rfl, rfl, List.filter_cons_of_neg spared, rfl⟩
    rw [same.draft_eq]
    decide +kernel
  have alike : (teaRequestOf "0000000000000000000000000000000e").AlikeButUser
      (teaRequestOf " URN:UUID:00000000-0000-0000-0000-00000000000E ") :=
    ⟨rfl, rfl, by decide +kernel, rfl⟩
  have worlds : (World.start .epoch 0 InMemory.empty : World Backing.inMemory.Store).AlikeButIds
      (.start .epoch 1 .empty) := ⟨rfl, rfl, rfl⟩
  obtain ⟨agree, inStore⟩ := agrees (posts _) alike bare urn worlds
  have created : (app.effect (teaRequestOf "0000000000000000000000000000000e")
      (.start .epoch 0 .empty)).1.status = 201 := by
    obtain ⟨_, -, follows⟩ := App.exists_watched_of_ofServices built
    have acceptable : Reminder.Acceptable " tea " tea.remindAt .epoch :=
      ⟨by decide +kernel, by decide +kernel, by decide⟩
    have accepts (reminder : Reminder) : ((Backing.inMemory.repository reminder ⟨0⟩).exec
        (World.skip 3 (.start .epoch 0 .empty))).1 = .ok () := by
      rw [Backing.repository, Repository.exec_within, InMemory.answer_add]
      rfl
    have posting : Posting Backing.inMemory.repository ⟨0⟩ _ (.start .epoch 0 .empty) _ _ _ :=
      .created (body _) bare.isFrom (by decide) rfl acceptable rfl (Prod.ext (accepts _) rfl)
    rw [App.effect, (follows (posts _) posting).1]
    rfl
  refine ⟨app, watched, built, built', agree, ?_, ?_⟩
  · generalize app.effect (teaRequestOf "0000000000000000000000000000000e") _ = first at *
    generalize app.effect _ _ = second at *
    cases inStore with
    | kept other => exact absurd created other
    | stored given owner gains gains' =>
        refine ⟨_, _, _, _, _, _, owner, rfl, ?_, rfl, ?_⟩
        · simpa [Backing.Gains, World.start, InMemory.empty] using gains
        · simpa [Backing.Gains, World.start, InMemory.empty] using gains'
  · have turnsAway := (reads app).nobody (posts _) (body _) nobody (.start .epoch 0 .empty)
    obtain ⟨m, -, rfl⟩ := App.ofServices_eq_ok_iff.mp built
    exact turnsAway

end Http

end Reminders
