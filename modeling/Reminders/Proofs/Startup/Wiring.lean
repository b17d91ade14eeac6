import Reminders.Proofs.Reminder.Versions
import Reminders.Proofs.Text.Numeral
import Reminders.Startup

/-!
# From variables to a mediator

Variables configure a service unless the port is given and is no numeral of 16 bits, or the version
of the API is given and blank; the port is looked at first. Nothing else is asked of the version
before the mediator is built, so that may fail as well, but for one reason only: the version is
malformed. The other complaints of registration are `Averted`. A version that is blank does not get
past the configuration, and the rest cannot arise from the one consumer of reminders.

What is averted when the mediator is built does not stop the service either, whatever database it
finds: `Stage.FailsOnly` tells which faults a stage of starting may end with, and `Unfit` what they
come from if the setup fails.
-/

namespace Reminders

open Consumer.Version (WellFormed Normal)
open Text (Numeral.Denotes isBlank join quoted splitOn splitOn_ne_nil trim trim_eq_nil_iff trimmed)

namespace Config

variable {lookup : String → Option String} {config : Config}

/-- The port is given, but not as a numeral of 16 bits. -/
def PortGarbled (lookup : String → Option String) : Prop :=
  ∃ raw, lookup "PORT" = some raw ∧ ∀ n, ¬Numeral.Denotes 65535 raw.toList n

/-- The version of the API is given, but has no character that is not blank. -/
def VersionBlank (lookup : String → Option String) : Prop :=
  ∃ version, lookup "API_VERSION" = some version ∧ ∀ c ∈ version.toList, isBlank c = true

theorem readPort_of_garbled (h : PortGarbled lookup) :
    ∃ fault, readPort (lookup "PORT") = .error (.port fault) := by
  obtain ⟨raw, given, unreadable⟩ := h
  rw [given, readPort]
  cases reads : Text.Numeral.read 65535 raw.toList with
  | error fault => exact ⟨fault, rfl⟩
  | ok port => exact absurd (Text.Numeral.read_eq_ok_iff.mp reads) (unreadable port)

theorem readPort_of_not_garbled (h : ¬PortGarbled lookup) :
    ∃ port, readPort (lookup "PORT") = .ok port := by
  cases given : lookup "PORT" with
  | none => exact ⟨_, rfl⟩
  | some raw =>
      obtain ⟨n, denotes⟩ : ∃ n, Numeral.Denotes 65535 raw.toList n := by
        by_contra unreadable
        exact h ⟨raw, given, not_exists.mp unreadable⟩
      rw [readPort, Text.Numeral.read_eq_ok_iff.mpr denotes]
      exact ⟨_, rfl⟩

/-- The version that stands in for one that is not given is not blank. -/
theorem trimmed_version_eq_iff :
    trimmed ((lookup "API_VERSION").getD "1.0") = "" ↔ VersionBlank lookup := by
  rw [trimmed, String.ofList_eq_empty_iff, trim_eq_nil_iff]
  cases given : lookup "API_VERSION" with
  | none =>
      refine iff_of_false (fun blank => ?_) ?_
      · cases blank '1' (by simp)
      · rintro ⟨version, given', -⟩
        cases given.symm.trans given'
  | some version => simp [VersionBlank, given]

theorem ofLookup_of_garbled (h : PortGarbled lookup) :
    ∃ fault, ofLookup lookup = .error (.port fault) := by
  obtain ⟨fault, unread⟩ := readPort_of_garbled h
  refine ⟨fault, ?_⟩
  rw [ofLookup, unread]
  rfl

theorem ofLookup_of_blank (port : ¬PortGarbled lookup) (h : VersionBlank lookup) :
    ofLookup lookup = .error .blankVersion := by
  obtain ⟨_, read⟩ := readPort_of_not_garbled port
  simp only [ofLookup, read, if_pos (trimmed_version_eq_iff.mpr h), bind, Except.bind]

theorem ofLookup_of_given (port : ¬PortGarbled lookup) (h : ¬VersionBlank lookup) :
    ∃ config, ofLookup lookup = .ok config ∧
      config.apiVersion = (lookup "API_VERSION").getD "1.0" := by
  obtain ⟨_, read⟩ := readPort_of_not_garbled port
  simp only [ofLookup, read, if_neg (mt trimmed_version_eq_iff.mp h), bind, Except.bind,
    Except.ok.injEq, exists_eq_left']

theorem exists_ofLookup_error_iff :
    (∃ fault, ofLookup lookup = .error fault) ↔ PortGarbled lookup ∨ VersionBlank lookup := by
  constructor
  · rintro ⟨fault, failed⟩
    by_contra sound
    obtain ⟨port, version⟩ := not_or.mp sound
    obtain ⟨config, configured, -⟩ := ofLookup_of_given port version
    cases failed.symm.trans configured
  · intro h
    by_cases port : PortGarbled lookup
    · obtain ⟨fault, failed⟩ := ofLookup_of_garbled port
      exact ⟨_, failed⟩
    · exact ⟨_, ofLookup_of_blank port (h.resolve_left port)⟩

theorem exists_ofLookup_port_iff :
    (∃ fault, ofLookup lookup = .error (.port fault)) ↔ PortGarbled lookup := by
  refine ⟨?_, ofLookup_of_garbled⟩
  rintro ⟨fault, failed⟩
  by_contra port
  have version := (exists_ofLookup_error_iff.mp ⟨_, failed⟩).resolve_left port
  cases failed.symm.trans (ofLookup_of_blank port version)

/-- What is configured has a version with something in it. -/
theorem trim_version_ne_nil (h : ofLookup lookup = .ok config) :
    trim config.apiVersion.toList ≠ [] := by
  have sound : ¬(PortGarbled lookup ∨ VersionBlank lookup) := by
    rw [← exists_ofLookup_error_iff]
    rintro ⟨fault, failed⟩
    cases failed.symm.trans h
  obtain ⟨port, version⟩ := not_or.mp sound
  obtain ⟨config', configured, same⟩ := ofLookup_of_given port version
  cases configured.symm.trans h
  intro blank
  apply version
  rw [← trimmed_version_eq_iff, ← same, trimmed, blank]

end Config

namespace Mediator

variable {C : Catalog} {σ : Type} [Cancellable σ] {services : Services σ} {version : String}

/-- Failures that registration can come to, but not for reminders in a version that is not blank. -/
inductive Averted : Failure → Prop
  | emptyVersion : Averted (Consumer.Fault.failure .emptyVersion)
  | missingVersion (pattern : String) : Averted (Consumer.Fault.failure (.missingVersion pattern))
  | missingAction (pattern : String) : Averted (Consumer.Fault.failure (.missingAction pattern))
  | emptyName : Averted (Consumer.Fault.failure .emptyName)
  | blankName (name : String) : Averted (Consumer.Fault.failure (.blankName name))
  | suffixOnly (typeName suffix : String) :
      Averted (Consumer.Fault.failure (.suffixOnly typeName suffix))
  | alreadySubscribed (consumer : Consumer.Name) (kind : String) :
      Averted (alreadySubscribed consumer kind)

theorem Averted.exists_detail {f : Failure} (h : Averted f) :
    ∃ detail : String, f = .configuration detail ∧
      detail.toList.take 13 ≠ "api version \"".toList := by
  cases h with
  | emptyVersion => exact ⟨"api version is empty", rfl, by decide⟩
  | missingVersion pattern =>
      exact ⟨"pattern " ++ quoted pattern ++
        " references \x7bversion:apiVersion\x7d but no version was supplied", rfl, by simp⟩
  | missingAction pattern =>
      exact ⟨"pattern " ++ quoted pattern ++ " references [action] but no action was supplied", rfl,
        by simp⟩
  | emptyName => exact ⟨"resolved consumer name is empty", rfl, by decide⟩
  | blankName name =>
      exact ⟨"resolved consumer name " ++ quoted name ++ " contains whitespace", rfl, by simp⟩
  | suffixOnly typeName suffix =>
      exact ⟨"declaring type " ++ quoted typeName ++ " has no name left after removing " ++
        quoted suffix, rfl, by simp⟩
  | alreadySubscribed consumer kind =>
      exact ⟨"consumer " ++ consumer.text ++ " is already subscribed to " ++ kind, rfl, by simp⟩

/-- A malformed version is quoted, which tells this failure from the others. -/
theorem Averted.ne_malformed {f : Failure} (h : Averted f) (version : String) :
    f ≠ .configuration ("api version " ++ quoted version ++ " is malformed") := by
  obtain ⟨detail, rfl, other⟩ := h.exists_detail
  rintro ⟨⟩
  apply other
  simp

/-- Failures of the database are no failures of registration. -/
theorem Averted.ne_of_ensureSchema {f : Failure} (h : Averted f) {δ : Type}
    (connection : Database.Connection δ) (content : δ) :
    (Database.ensureSchema connection content).1 ≠ .error f := by
  obtain ⟨detail, rfl, -⟩ := h.exists_detail
  intro failed
  rw [Database.ensureSchema] at failed
  rcases executed : connection.execute Database.schema [] content with ⟨_ | _, _⟩
  all_goals
    rw [executed] at failed
    cases failed

theorem registerReminders_of_not_wellFormed (services : Services σ)
    (given : trim version.toList ≠ []) (h : ¬WellFormed version) :
    (initial : Mediator C.withReminders σ).registerReminders services version =
      .error (.configuration ("api version " ++ quoted version ++ " is malformed")) := by
  rw [registerReminders, Reminder.consumer_of_not_wellFormed h, if_neg given]
  rfl

theorem exists_registerReminders_iff (services : Services σ) :
    (∃ m : Mediator C.withReminders σ, initial.registerReminders services version = .ok m) ↔
      WellFormed version := by
  constructor
  · rintro ⟨m, registers⟩
    obtain ⟨consumer, resolved, -⟩ := registerReminders_eq_ok_iff.mp registers
    exact (Reminder.consumer_eq_ok_iff.mp resolved).1
  · intro wellFormed
    have built : ∃ m, registerVersions (C := C) services [version] = .ok m :=
      (exists_registerVersions_iff services).mpr
        ⟨by simpa using wellFormed, List.pairwise_singleton _ _⟩
    simpa [registerVersions] using built

theorem listings_of_registerReminders {m : Mediator C.withReminders σ}
    (h : initial.registerReminders services version = .ok m) :
    ∃ kept consumer, Normal (splitOn '.' (trim version.toList)) kept ∧
      consumer.text = "Reminder_v" ++ String.ofList (join '_' kept) ++ "_ReminderSet" ∧
      m.listings = [⟨"reminders.reminder_set", consumer⟩] := by
  obtain ⟨consumer, resolved, registered⟩ := registerReminders_eq_ok_iff.mp h
  obtain ⟨kept, normal, text⟩ :=
    Reminder.names_iff.mpr (Reminder.consumer_eq_ok_iff.mp resolved).2
  refine ⟨kept, consumer, normal, text, ?_⟩
  have built : build ([consumer].flatMap (reminderRegistrations services)) = .ok m := by
    rw [List.flatMap_singleton]
    exact registered
  exact listings_of_versions built

end Mediator

namespace Startup

open Log (Entry Level)

variable {α β δ : Type} {P : Fault → Prop}

/-- A stage ends with certain faults only, whatever has been logged before it. -/
def Stage.FailsOnly (P : Fault → Prop) (stage : Stage α) : Prop :=
  ∀ entries f, (stage.run.run entries).1 = .error f → P f

namespace Stage.FailsOnly

theorem pure (a : α) : FailsOnly P (Pure.pure a : Stage α) := nofun

theorem throw {f : Fault} (h : P f) : FailsOnly P (MonadExcept.throw f : Stage α) := by
  rintro entries _ ⟨⟩
  exact h

theorem log (level : Level) (target message : String) (fields : List (String × String)) :
    FailsOnly P (Startup.log level target message fields) := nofun

/-- Each part of a sequence ends with the faults that it may end with. -/
theorem bind {stage : Stage α} {next : α → Stage β} (h : FailsOnly P stage)
    (hnext : ∀ a, FailsOnly P (next a)) : FailsOnly P (stage >>= next) := by
  intro entries f failed
  change (match stage.run.run entries with
    | (r, entries') => (ExceptT.bindCont next r).run entries').1 = .error f at failed
  rcases ends : stage.run.run entries with ⟨g | a, entries'⟩
  all_goals rw [ends] at failed
  · apply h entries f
    rw [ends]
    exact congrArg Except.error (Except.error.inj failed)
  · exact hnext a entries' f failed

theorem forIn (bs : List β) {work : β → Stage PUnit} (h : ∀ b, FailsOnly P (work b)) :
    FailsOnly P (ForIn.forIn bs PUnit.unit fun b _ => do
      work b
      Pure.pure (ForInStep.yield PUnit.unit)) := by
  induction bs with
  | nil => exact .pure _
  | cons b bs ih =>
      rw [List.forIn_cons]
      refine .bind (.bind (h b) fun _ => .pure _) fun step => ?_
      cases step with
      | done _ => exact .pure _
      | yield _ => exact ih

end Stage.FailsOnly

/-- Why the setup of a service fails: the table of reminders cannot be created in the database that
variables give, or reminders cannot be registered in the version that they give. -/
inductive Unfit (reach : Database.Reach δ) (lookup : String → Option String) : Failure → Prop where
  | schema {config : Config} {url : String} {connection : Database.Connection δ} {content : δ}
      {f : Failure} (configured : Config.ofLookup lookup = .ok config)
      (given : config.databaseUrl = some url)
      (reached : Database.connect reach url = .ok (connection, content))
      (failed : (Database.ensureSchema connection content).1 = .error f) : Unfit reach lookup f
  | version {config : Config} {f : Failure} (configured : Config.ofLookup lookup = .ok config)
      (failed : (Mediator.initial : Wired δ).registerReminders (World.services Store.add)
        config.apiVersion = .error f) : Unfit reach lookup f

variable {reach : Database.Reach δ} {lookup : String → Option String} {config : Config}

theorem openDatabase_failsOnly {url : String} (configured : Config.ofLookup lookup = .ok config)
    (given : config.databaseUrl = some url) :
    (openDatabase reach url).FailsOnly fun f => ∀ g, f = .setup g → Unfit reach lookup g := by
  rw [openDatabase]
  cases reached : Database.connect reach url with
  | error f => exact .throw fun _ other => nomatch other
  | ok found =>
      obtain ⟨connection, content⟩ := found
      rcases ensured : Database.ensureSchema connection content with ⟨f | _, content'⟩
      · simp only [ensured]
        refine .throw ?_
        rintro _ ⟨⟩
        exact .schema configured given reached (congrArg Prod.fst ensured)
      · simp only [ensured]
        exact .bind (.log _ _ _ _) fun _ => .pure _

theorem chooseStore_failsOnly (configured : Config.ofLookup lookup = .ok config) :
    (chooseStore reach config).FailsOnly fun f => ∀ g, f = .setup g → Unfit reach lookup g := by
  rw [chooseStore]
  cases given : config.databaseUrl with
  | some url => exact openDatabase_failsOnly configured given
  | none => exact .bind (.log _ _ _ _) fun _ => .pure _

theorem buildMediator_failsOnly (configured : Config.ofLookup lookup = .ok config) :
    (buildMediator config.apiVersion : Stage (Wired δ)).FailsOnly
      fun f => ∀ g, f = .setup g → Unfit reach lookup g := by
  rw [buildMediator]
  cases registers : (Mediator.initial : Wired δ).registerReminders (World.services Store.add)
      config.apiVersion with
  | error g =>
      refine .throw ?_
      rintro _ ⟨⟩
      exact .version configured registers
  | ok m =>
      refine .bind (.forIn _ fun l => .log _ _ _ _) fun _ => ?_
      refine .bind (.log _ _ _ _) fun _ => ?_
      exact .bind (.forIn _ fun l => .log _ _ _ _) fun _ => .pure m

/-- Nothing but the table of reminders and their registration makes the setup of the service
fail. -/
theorem stages_failsOnly (reach : Database.Reach δ) (lookup : String → Option String) :
    (stages reach lookup).FailsOnly fun f => ∀ g, f = .setup g → Unfit reach lookup g := by
  rw [stages]
  refine .bind (.log _ _ _ _) fun _ => ?_
  cases configured : Config.ofLookup lookup with
  | error f => exact .throw nofun
  | ok config =>
      refine .bind (chooseStore_failsOnly configured) fun store => ?_
      refine .bind (buildMediator_failsOnly configured) fun m => ?_
      refine .bind (.forIn _ fun l => .log _ _ _ _) fun _ => ?_
      cases config.bindAddress with
      | error f => exact .throw nofun
      | ok address =>
          refine .bind (.log _ _ _ _) fun _ => ?_
          cases address.host.listeningError? with
          | none => exact .pure _
          | some error => exact .throw nofun

theorem unfit_of_start {f : Failure} (h : (start reach lookup).1 = .error (.setup f)) :
    Unfit reach lookup f :=
  stages_failsOnly reach lookup [] (.setup f) h f rfl

/-- A service with a database does not start in a version that is refused. -/
theorem start_of_refused {url : String} {connection : Database.Connection δ} {content content' : δ}
    {f : Failure} (configured : Config.ofLookup lookup = .ok config)
    (given : config.databaseUrl = some url)
    (reached : Database.connect reach url = .ok (connection, content))
    (ensured : Database.ensureSchema connection content = (.ok (), content'))
    (refused : (Mediator.initial : Wired δ).registerReminders (World.services Store.add)
      config.apiVersion = .error f) : (start reach lookup).1 = .error (.setup f) := by
  simp only [start, stages, configured, chooseStore, given, openDatabase, reached, ensured,
    buildMediator, refused]
  rfl

end Startup

namespace Mediator

/-- What variables come to before the service listens. They configure it unless the port is given
and is no numeral of 16 bits, which is reported first, or the version of the API is given and blank.
Over any services, reminders can then be registered exactly in a version that is well formed; they
have one consumer, whose name tells the normal form of the version. Otherwise the failure is that
the version is malformed. It is never one of those that are averted, neither here nor when the
service starts, with whatever database. -/
theorem variables_decide_wiring (lookup : String → Option String) :
    ((∃ fault, Config.ofLookup lookup = .error fault) ↔
      Config.PortGarbled lookup ∨ Config.VersionBlank lookup) ∧
    ((∃ fault, Config.ofLookup lookup = .error (.port fault)) ↔ Config.PortGarbled lookup) ∧
    (∀ config, Config.ofLookup lookup = .ok config →
      ∀ (C : Catalog) (σ : Type) [Cancellable σ] (services : Services σ),
        ((∃ m : Mediator C.withReminders σ,
            initial.registerReminders services config.apiVersion = .ok m) ↔
          WellFormed config.apiVersion) ∧
        (∀ m : Mediator C.withReminders σ,
          initial.registerReminders services config.apiVersion = .ok m →
            ∃ kept consumer, Normal (splitOn '.' (trim config.apiVersion.toList)) kept ∧
              consumer.text = "Reminder_v" ++ String.ofList (join '_' kept) ++ "_ReminderSet" ∧
              m.listings = [⟨"reminders.reminder_set", consumer⟩]) ∧
        ∀ f, (initial : Mediator C.withReminders σ).registerReminders services config.apiVersion =
            .error f →
          f = .configuration ("api version " ++ quoted config.apiVersion ++ " is malformed") ∧
            ¬Averted f) ∧
    ∀ (δ : Type) (reach : Database.Reach δ) f,
      (Startup.start reach lookup).1 = .error (.setup f) → ¬Averted f := by
  have refused {config : Config} (configured : Config.ofLookup lookup = .ok config) {C : Catalog}
      {σ : Type} [Cancellable σ] (services : Services σ) {f : Failure}
      (failed : (initial : Mediator C.withReminders σ).registerReminders services
        config.apiVersion = .error f) :
      f = .configuration ("api version " ++ quoted config.apiVersion ++ " is malformed") := by
    have malformed : ¬WellFormed config.apiVersion := by
      intro wellFormed
      obtain ⟨m, registers⟩ := (exists_registerReminders_iff (C := C) services).mpr wellFormed
      cases failed.symm.trans registers
    have fails := registerReminders_of_not_wellFormed (C := C) services
      (Config.trim_version_ne_nil configured) malformed
    exact Except.error.inj (failed.symm.trans fails)
  refine ⟨Config.exists_ofLookup_error_iff, Config.exists_ofLookup_port_iff, ?_, ?_⟩
  · intro config configured C σ _ services
    refine ⟨exists_registerReminders_iff services, fun _ => listings_of_registerReminders, ?_⟩
    intro f failed
    have malformed := refused configured services failed
    exact ⟨malformed, fun averted => averted.ne_malformed config.apiVersion malformed⟩
  · intro δ reach f failed averted
    cases Startup.unfit_of_start failed with
    | schema _ _ _ failed => exact averted.ne_of_ensureSchema _ _ failed
    | version configured failed =>
        exact averted.ne_malformed _ (refused configured _ failed)

/-- Variables that give a port and a version, and nothing else. -/
def given (port version : String) (name : String) : Option String :=
  if name = "PORT" then some port else if name = "API_VERSION" then some version else none

/-- Variables that give the URL of a database besides. -/
def givenDatabase (url port version : String) (name : String) : Option String :=
  if name = "DATABASE_URL" then some url else given port version name

/-- A database that carries out every statement and yet stays as it is. -/
def obliging : Database.Connection Unit := ⟨fun _ _ content => (.ok 0, content)⟩

/-- A blank version is not reported beside a port that is too large. A version that is surrounded by
blanks and ends in zeros names its consumer without them, and one with an empty component is refused
only when the mediator is built, be it after a database has been opened. -/
theorem wiring_of_given :
    (∃ fault, Config.ofLookup (given "65536" " ") = .error (.port fault)) ∧
    (∃ m consumer, Config.ofLookup (given "+08080" " 2.10.00\t") =
        .ok ⟨"0.0.0.0", 8080, " 2.10.00\t", none⟩ ∧
      (initial : Mediator Catalog.empty.withReminders Signals).registerReminders idle
        " 2.10.00\t" = .ok m ∧
      m.listings = [⟨"reminders.reminder_set", consumer⟩] ∧
      consumer.text = "Reminder_v2_10_ReminderSet") ∧
    Config.ofLookup (given "80" "2..1") = .ok ⟨"0.0.0.0", 80, "2..1", none⟩ ∧
    (∃ f, (initial : Mediator Catalog.empty.withReminders Signals).registerReminders idle "2..1" =
      .error f ∧ f = .configuration ("api version " ++ quoted "2..1" ++ " is malformed") ∧
      ¬Averted f) ∧
    ∃ f, (Startup.start (fun _ _ => .ok (obliging, ()))
      (givenDatabase "postgres://db/tidings" "80" "2..1")).1 = .error (.setup f) ∧ ¬Averted f := by
  obtain ⟨-, port_iff, -, -⟩ := variables_decide_wiring (given "65536" " ")
  have garbled : Config.PortGarbled (given "65536" " ") := by
    refine ⟨"65536", rfl, ?_⟩
    intro n denotes
    have read := Text.Numeral.read_eq_ok_iff.mpr denotes
    have tooLarge : Text.Numeral.read 65535 "65536".toList = .error .tooLarge := by decide
    cases tooLarge.symm.trans read
  have padded : Config.ofLookup (given "+08080" " 2.10.00\t") =
      .ok ⟨"0.0.0.0", 8080, " 2.10.00\t", none⟩ := by decide +kernel
  have broken : Config.ofLookup (given "80" "2..1") = .ok ⟨"0.0.0.0", 80, "2..1", none⟩ := by
    decide +kernel
  obtain ⟨-, -, wires, -⟩ := variables_decide_wiring (given "+08080" " 2.10.00\t")
  obtain ⟨built_iff, lists, -⟩ := wires _ padded Catalog.empty Signals idle
  obtain ⟨m, registers⟩ := built_iff.mpr (Consumer.Version.all_isComponent_iff.mp (by decide))
  obtain ⟨kept, consumer, normal, text, listed⟩ := lists m registers
  obtain rfl : kept = ["2".toList, "10".toList] :=
    normal.unique ((Consumer.Version.normalForm_eq_iff (splitOn_ne_nil _ _)).mp (by decide))
  obtain ⟨-, -, wires', -⟩ := variables_decide_wiring (given "80" "2..1")
  obtain ⟨-, -, refuses⟩ := wires' _ broken Catalog.empty Signals idle
  have malformed : ¬WellFormed "2..1" := mt Consumer.Version.all_isComponent_iff.mpr (by decide)
  have failed := registerReminders_of_not_wellFormed (C := Catalog.empty) idle (by decide) malformed
  obtain ⟨told, unheard⟩ := refuses _ failed
  have opened : Config.ofLookup (givenDatabase "postgres://db/tidings" "80" "2..1") =
      .ok ⟨"0.0.0.0", 80, "2..1", some "postgres://db/tidings"⟩ := by decide +kernel
  have reached : Database.connect (fun _ _ => .ok (obliging, ())) "postgres://db/tidings" =
      .ok (obliging, ()) := rfl
  have stopped := Startup.start_of_refused opened rfl reached rfl
    (registerReminders_of_not_wellFormed _ (by decide) malformed)
  obtain ⟨-, -, -, starts⟩ :=
    variables_decide_wiring (givenDatabase "postgres://db/tidings" "80" "2..1")
  refine ⟨port_iff.mpr garbled, ⟨m, consumer, padded, registers, listed, ?_⟩, broken,
    ⟨_, failed, told, unheard⟩, _, stopped, starts _ _ _ stopped⟩
  rw [text]
  decide

end Mediator

end Reminders
