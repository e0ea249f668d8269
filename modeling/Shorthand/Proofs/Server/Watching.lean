import Shorthand.Files.Table
import Shorthand.Proofs.Extension.Loading
import Shorthand.Server.Wire

/-!
# `Shorthand.Proofs.Server.Watching`: the tables are those of the watched directories

The server keeps a session, the tables of its engine and a list of watched directories, and
changes them one after another while it handles a message. `registry_eq_load_watched` says
that they never come apart: after every message before a shutdown, the tables are what the
watched directories hold, over a file system that does not change meanwhile.

There are three ways in which a load can go (`loadExtensions_cases`): with the default
directory, without it after a failure, or not at all. A directory loads or fails whatever
was loaded before it (`Extension.load_eq_ok_iff`), so the default directory never decides. What
a message can do is said once (`receive_cases`), and so is what that means for tables and
directories (`Effect`). The invariant follows for one message and for a run.
-/

set_option autoImplicit false

namespace Shorthand

namespace Server

section

variable {config : ServerConfig} {files : Files}

/-- The directories that a session configures, as they are loaded. -/
abbrev configured (config : ServerConfig) (session : Session) : List Text :=
  session.directories config.workingDirectory

/-- The outcomes of a load: tables of directories that end with the configured ones, or
nothing at all and a failure of the configured ones alone. -/
theorem loadExtensions_cases (config : ServerConfig) (files : Files) (engine : Engine)
    (session : Session) :
    (∃ registry defaults,
      loadExtensions config files engine session
        = ({ registry }, .ok (defaults ++ configured config session)) ∧
      Extension.load files (defaults ++ configured config session) = .ok registry) ∨
    ∃ e, loadExtensions config files engine session = (engine, .error e) ∧
      Extension.load files (configured config session) = .error e := by
  unfold loadExtensions
  cases hall : Extension.load files (defaultDirectories config files ++ configured config session)
    with
  | ok registry =>
    left
    exact ⟨registry, defaultDirectories config files, by simp only [Engine.load, hall], hall⟩
  | error e =>
    simp only [Engine.load, hall]
    cases hdefaults : defaultDirectories config files with
    | nil =>
      right
      rw [hdefaults, List.nil_append] at hall
      exact ⟨e, rfl, hall⟩
    | cons directory others =>
      -- The second load is without the default directory.
      cases hconfigured : Extension.load files (configured config session) with
      | ok registry =>
        left
        exact ⟨registry, [], rfl, hconfigured⟩
      | error e' =>
        right
        exact ⟨e', rfl, rfl⟩

/-- Directories that load together with others load alone. -/
theorem load_configured {defaults : List Text} {session : Session} {registry : Registry}
    (h : Extension.load files (defaults ++ configured config session) = .ok registry) :
    ∃ alone, Extension.load files (configured config session) = .ok alone := by
  have hloads := (Extension.exists_load_eq_ok_iff files _).1 ⟨registry, h⟩
  exact (Extension.exists_load_eq_ok_iff files _).2 fun directory hdirectory =>
    hloads directory (List.mem_append_right defaults hdirectory)

/-- A load fails if and only if the configured directories fail by themselves. -/
theorem loadExtensions_error_iff (engine : Engine) (session : Session) :
    (∃ e, (loadExtensions config files engine session).2 = .error e)
      ↔ ∃ e, Extension.load files (configured config session) = .error e := by
  obtain ⟨registry, defaults, hload, hall⟩ | ⟨e, hload, hconfigured⟩ :=
    loadExtensions_cases config files engine session
  · obtain ⟨alone, halone⟩ := load_configured hall
    simp [hload, halone]
  · simp [hload, hconfigured]

/-! ### One message -/

/-- A first message is refused and changes nothing, or brings a session whose directories are
loaded and watched. -/
theorem start_cases (config : ServerConfig) (files : Files) (server : Server)
    (options : Option Json) :
    (∃ refusal, server.start config files options = (server, .error refusal)) ∨
    ∃ registry defaults,
      server.start config files options
        = ({ server with
              phase := .initialized
              session := Session.ofInitialization options
              engine := { registry }
              watched := defaults ++ configured config (Session.ofInitialization options) },
            .ok capabilities) ∧
      Extension.load files (defaults ++ configured config (Session.ofInitialization options))
        = .ok registry := by
  unfold start
  obtain ⟨registry, defaults, hload, hall⟩ | ⟨e, hload, -⟩ :=
    loadExtensions_cases config files server.engine (Session.ofInitialization options)
  · right
    exact ⟨registry, defaults, by simp only [hload], hall⟩
  · left
    exact ⟨.internal ("Failed to load extensions: ".toList ++ e.message), by simp only [hload]⟩

/-- Changed settings bring a session in any case. Its directories are loaded and watched, or
do not load and change nothing else. -/
theorem changeConfiguration_cases (config : ServerConfig) (files : Files) (server : Server)
    {settings : Json} {session : Session}
    (h : Session.ofChange? settings = some session) :
    (∃ registry defaults,
      (server.changeConfiguration config files settings).1
        = { server with
            session
            engine := { registry }
            watched := defaults ++ configured config session } ∧
      Extension.load files (defaults ++ configured config session) = .ok registry) ∨
    ∃ e, (server.changeConfiguration config files settings).1 = { server with session } ∧
      Extension.load files (configured config session) = .error e := by
  unfold changeConfiguration
  obtain ⟨registry, defaults, hload, hall⟩ | ⟨e, hload, hconfigured⟩ :=
    loadExtensions_cases config files server.engine session
  · left
    exact ⟨registry, defaults, by simp only [h, hload], hall⟩
  · right
    exact ⟨e, by simp only [h, hload], hconfigured⟩

/-- Settings without a readable section change nothing. -/
theorem changeConfiguration_of_none {server : Server} {settings : Json}
    (h : Session.ofChange? settings = none) :
    (server.changeConfiguration config files settings).1 = server := by
  simp only [changeConfiguration, h]

/-- What a message can do to the tables and the watched directories. -/
inductive Effect (files : Files) (server next : Server) : Prop where
  | none (hengine : next.engine = server.engine) (hwatched : next.watched = server.watched)
  /-- The directories that are watched from now on have been loaded. -/
  | loaded (hload : Extension.load files next.watched = .ok next.engine.registry)

theorem changeConfiguration_effect (server : Server) (settings : Json) :
    Effect files server (server.changeConfiguration config files settings).1 := by
  cases hsession : Session.ofChange? settings with
  | none =>
    rw [changeConfiguration_of_none hsession]
    exact .none rfl rfl
  | some session =>
    obtain ⟨registry, defaults, hnext, hload⟩ | ⟨e, hnext, -⟩ :=
      changeConfiguration_cases config files server hsession
    · rw [hnext]
      exact .loaded hload
    · rw [hnext]
      exact .none rfl rfl

theorem notify_effect (server : Server) (n : Notification) :
    Effect files server (server.notify config files n).1 := by
  cases n with
  | didChangeConfiguration settings => exact changeConfiguration_effect server settings
  | didChange uri version changes =>
    show Effect files server (server.changeDocument uri version changes)
    unfold changeDocument
    split <;> exact .none rfl rfl
  | initialized | exit | didOpen | didClose | ignored => exact .none rfl rfl

/-- Only the name of the shutdown stands for it. -/
theorem ofName?_eq_shutdown {method : Text} (h : Method.ofName? method = some .shutdown) :
    method = "shutdown" := by
  obtain ⟨⟨name, m⟩, hfind, rfl⟩ := Option.map_eq_some_iff.1 h
  have hmem := List.mem_of_find?_eq_some hfind
  have hname : name = "shutdown" := by simpa [Method.all, Method.answered] using hmem
  have heq := List.find?_some hfind
  rw [hname] at heq
  exact (eq_of_beq heq).symm

/-- The server after a message. After the exit a message has no effect. -/
def receive (config : ServerConfig) (files : Files) (server : Server) (message : Incoming) :
    Server :=
  match server.step config files message.id.isSome message.method message.params with
  | some outcome => outcome.server
  | none => server

/-- The first message as it arrives: it is refused or passed over, or it is well formed and
starts the server. -/
theorem handleStart_cases (config : ServerConfig) (files : Files) (server : Server)
    (isRequest : Bool) (params : Option Json) :
    ((handleStart config files server isRequest params).server = server ∧
      ∀ result, (handleStart config files server isRequest params).reply ≠ some (.ok result)) ∨
    ∃ options, params.bind Request.start? = some (.start options) ∧
      handleStart config files server isRequest params
        = { server := (server.start config files options).1,
            reply := some (server.start config files options).2 } := by
  unfold handleStart
  split
  · cases isRequest <;> simp [refuse]
  · split
    · simp
    · split
      · rename_i options hoptions
        right
        exact ⟨options, hoptions, rfl⟩
      · cases isRequest <;> simp [refuse]

theorem handleStart_effect (server : Server) (isRequest : Bool) (params : Option Json) :
    Effect files server (handleStart config files server isRequest params).server := by
  obtain ⟨hnext, -⟩ | ⟨options, -, hnext⟩ :=
    handleStart_cases config files server isRequest params
  · rw [hnext]
    exact .none rfl rfl
  · obtain ⟨refusal, hstart⟩ | ⟨registry, defaults, hstart, hload⟩ :=
      start_cases config files server options
    · rw [hnext, hstart]
      exact .none rfl rfl
    · rw [hnext, hstart]
      exact .loaded hload

/-- A message changes nothing, or it starts the server, ends the connection or notifies the
server. -/
theorem receive_cases (config : ServerConfig) (files : Files) (server : Server)
    (message : Incoming) :
    receive config files server message = server ∨
    (Method.ofName? message.method = some .start ∧
      receive config files server message
        = (handleStart config files server message.id.isSome message.params).server) ∨
    Method.ofName? message.method = some .shutdown ∨
    (Method.ofName? message.method = some .exit ∧
      receive config files server message = { server with phase := .exited }) ∨
    ∃ decode n, Method.ofName? message.method = some (.notification decode) ∧
      message.params.bind decode = some n ∧
      receive config files server message = (server.notify config files n).1 := by
  by_cases hphase : server.phase = .exited
  · left
    simp [receive, step, hphase]
  · have hreceive : receive config files server message
        = (handle config files server message.id.isSome message.method message.params).server := by
      simp [receive, step, hphase]
    rw [hreceive]
    unfold handle
    cases hmethod : Method.ofName? message.method with
    | none =>
      left
      simp only
      split <;> rfl
    | some method =>
      cases method with
      | start => exact .inr (.inl ⟨rfl, rfl⟩)
      | shutdown => exact .inr (.inr (.inl rfl))
      | exit => exact .inr (.inr (.inr (.inl ⟨rfl, rfl⟩)))
      | request decode =>
        -- A request reads the state and writes nothing.
        left
        simp only
        split
        · rfl
        · split
          · rfl
          · split <;> rfl
      | notification decode =>
        simp only
        split
        · exact .inl rfl
        · split
          · exact .inl rfl
          · cases hparams : message.params.bind decode with
            | none => exact .inl rfl
            | some n => exact .inr (.inr (.inr (.inr ⟨decode, n, rfl, hparams, rfl⟩)))

theorem receive_effect (config : ServerConfig) (files : Files) (server : Server)
    {message : Incoming} (hmessage : message.method ≠ "shutdown".toList) :
    Effect files server (receive config files server message) := by
  obtain hnext | ⟨-, hnext⟩ | hshutdown | ⟨-, hnext⟩ | ⟨decode, n, -, -, hnext⟩ :=
    receive_cases config files server message
  · rw [hnext]
    exact .none rfl rfl
  · rw [hnext]
    exact handleStart_effect server _ _
  · exact absurd (ofName?_eq_shutdown hshutdown) hmessage
  · rw [hnext]
    exact .none rfl rfl
  · rw [hnext]
    exact notify_effect server n

/-! ### New sessions -/

/-- A first message that fails changes nothing. -/
theorem handleStart_error {server : Server} {isRequest : Bool} {params : Option Json}
    {refusal : Refusal}
    (h : (handleStart config files server isRequest params).reply = some (.error refusal)) :
    (handleStart config files server isRequest params).server = server := by
  obtain ⟨hnext, -⟩ | ⟨options, -, hnext⟩ :=
    handleStart_cases config files server isRequest params
  · exact hnext
  · obtain ⟨refusal', hstart⟩ | ⟨registry, defaults, hstart, -⟩ :=
      start_cases config files server options
    · rw [hnext, hstart]
    · simp [hnext, hstart] at h

/-- A first message that succeeds brings a session, whose directories are watched. -/
theorem handleStart_ok {server : Server} {isRequest : Bool} {params : Option Json}
    {result : Json}
    (h : (handleStart config files server isRequest params).reply = some (.ok result)) :
    ∃ options, params.bind Request.start? = some (.start options) ∧
      (handleStart config files server isRequest params).server.session
        = Session.ofInitialization options ∧
      configured config (Session.ofInitialization options)
        <:+ (handleStart config files server isRequest params).server.watched := by
  obtain ⟨-, hreply⟩ | ⟨options, hoptions, hnext⟩ :=
    handleStart_cases config files server isRequest params
  · exact absurd h (hreply result)
  · refine ⟨options, hoptions, ?_⟩
    obtain ⟨refusal, hstart⟩ | ⟨registry, defaults, hstart, -⟩ :=
      start_cases config files server options
    · simp [hnext, hstart] at h
    · rw [hnext, hstart]
      exact ⟨rfl, List.suffix_append _ _⟩

theorem step_start {server : Server} {isRequest : Bool} {params : Option Json}
    {outcome : Outcome}
    (h : server.step config files isRequest "initialize" params = some outcome) :
    outcome = handleStart config files server isRequest params := by
  have hname : Method.ofName? "initialize" = some .start := rfl
  simp only [step, handle, hname, Option.ite_none_left_eq_some] at h
  exact (Option.some.inj h.2).symm

/-- Changed settings bring their session, and the directories of it are watched if they
load. Otherwise nothing else changes. -/
theorem changeConfiguration_load (server : Server) {settings : Json} {session : Session}
    (h : Session.ofChange? settings = some session) :
    match Extension.load files (configured config session) with
    | .error _ => (server.changeConfiguration config files settings).1 = { server with session }
    | .ok _ => (server.changeConfiguration config files settings).1.session = session ∧
      configured config session
        <:+ (server.changeConfiguration config files settings).1.watched := by
  obtain ⟨registry, defaults, hnext, hload⟩ | ⟨e, hnext, hload⟩ :=
    changeConfiguration_cases config files server h
  · obtain ⟨alone, halone⟩ := load_configured hload
    rw [halone, hnext]
    exact ⟨rfl, List.suffix_append _ _⟩
  · rw [hload]
    exact hnext

theorem ofName?_didChangeConfiguration :
    Method.ofName? "workspace/didChangeConfiguration"
      = some (.notification Notification.didChangeConfiguration?) :=
  rfl

/-- The message of changed settings, once a connection is open. -/
theorem receive_didChangeConfiguration {server : Server} (hphase : server.phase = .initialized)
    {message : Incoming} (hid : message.id = none)
    (hmethod : message.method = "workspace/didChangeConfiguration") {settings : Json}
    (hparams : message.params.bind Notification.didChangeConfiguration?
      = some (.didChangeConfiguration settings)) :
    receive config files server message
      = (server.changeConfiguration config files settings).1 := by
  have hname := hmethod ▸ ofName?_didChangeConfiguration
  simp [receive, step, handle, hphase, hid, hname, hparams, notify]

theorem exists_of_didChangeConfiguration? {params : Json} {n : Notification}
    (h : Notification.didChangeConfiguration? params = some n) :
    ∃ settings, n = .didChangeConfiguration settings := by
  simp only [Notification.didChangeConfiguration?, bind, pure, Option.bind_eq_some_iff,
    Option.some.injEq] at h
  obtain ⟨fields, -, settings, -, rfl⟩ := h
  exact ⟨settings, rfl⟩

/-- A message of changed settings without a readable section changes nothing, in any phase
and whatever else it holds. -/
theorem receive_of_unreadable {server : Server} {message : Incoming}
    (hmethod : message.method = "workspace/didChangeConfiguration")
    (hnone : ∀ settings, message.params.bind Notification.didChangeConfiguration?
      = some (.didChangeConfiguration settings) → Session.ofChange? settings = none) :
    receive config files server message = server := by
  have hname := hmethod ▸ ofName?_didChangeConfiguration
  obtain hnext | ⟨hother, -⟩ | hother | ⟨hother, -⟩ | ⟨decode, n, hdecode, hparams, hnext⟩ :=
    receive_cases config files server message
  · exact hnext
  · simp [hname] at hother
  · simp [hname] at hother
  · simp [hname] at hother
  · obtain rfl : Notification.didChangeConfiguration? = decode := by
      simpa [hname] using hdecode
    obtain ⟨params, -, hread⟩ := Option.bind_eq_some_iff.1 hparams
    obtain ⟨settings, rfl⟩ := exists_of_didChangeConfiguration? hread
    rw [hnext]
    exact changeConfiguration_of_none (hnone settings hparams)

/-! ### Runs -/

/-- The tables are those of the watched directories. -/
def Current (files : Files) (server : Server) : Prop :=
  Extension.load files server.watched = .ok server.engine.registry

theorem Current.effect {server next : Server} (h : server.Current files)
    (heffect : Effect files server next) : next.Current files := by
  unfold Current at h ⊢
  cases heffect with
  | none hengine hwatched => rw [hengine, hwatched, h]
  | loaded hload => exact hload

/-- The server after messages, one after another. -/
def receiveAll (config : ServerConfig) (files : Files) (server : Server)
    (messages : List Incoming) : Server :=
  messages.foldl (receive config files) server

theorem Current.receiveAll {server : Server} (h : server.Current files)
    {messages : List Incoming} (hrun : ∀ m ∈ messages, m.method ≠ "shutdown".toList) :
    (receiveAll config files server messages).Current files := by
  induction messages generalizing server with
  | nil => exact h
  | cons message rest ih =>
    have hfirst := h.effect (receive_effect config files server
      (hrun message List.mem_cons_self))
    exact ih hfirst fun m hm => hrun m (List.mem_cons_of_mem _ hm)

/-- The tables of the engine are those of the watched directories, after any messages before
a shutdown and so after each of them: nothing is watched without being loaded, and nothing
is loaded that is not watched. Whether a load fails is decided by the configured directories
alone.

A first message that fails leaves the server as it was, and one that succeeds brings its
session and has the directories of it watched. Changed settings bring their session in any
case. If its directories load they are watched, and otherwise nothing else changes. Settings
without a readable section change nothing. -/
theorem registry_eq_load_watched (config : ServerConfig) (files : Files)
    {messages : List Incoming} (hrun : ∀ m ∈ messages, m.method ≠ "shutdown".toList) :
    let server := receiveAll config files {} messages
    Extension.load files server.watched = .ok server.engine.registry ∧
    (server.watched = [] → server.engine.registry = {}) ∧
    (∀ session,
      (∃ e, (loadExtensions config files server.engine session).2 = .error e)
        ↔ ∃ e, Extension.load files (session.directories config.workingDirectory) = .error e) ∧
    (∀ params outcome,
      server.step config files true "initialize" params = some outcome →
      (∀ refusal, outcome.reply = some (.error refusal) → outcome.server = server) ∧
      (∀ result, outcome.reply = some (.ok result) →
        ∃ options, params.bind Request.start? = some (.start options) ∧
          outcome.server.session = Session.ofInitialization options ∧
          outcome.server.session.directories config.workingDirectory
            <:+ outcome.server.watched)) ∧
    (∀ message : Incoming, message.method = "workspace/didChangeConfiguration".toList →
      (∀ settings session, server.phase = .initialized → message.id = none →
        message.params.bind Notification.didChangeConfiguration?
          = some (.didChangeConfiguration settings) →
        Session.ofChange? settings = some session →
        match Extension.load files (session.directories config.workingDirectory) with
        | .error _ => receive config files server message = { server with session }
        | .ok _ => (receive config files server message).session = session ∧
          session.directories config.workingDirectory
            <:+ (receive config files server message).watched) ∧
      ((∀ settings, message.params.bind Notification.didChangeConfiguration?
          = some (.didChangeConfiguration settings) → Session.ofChange? settings = none) →
        receive config files server message = server)) := by
  intro server
  have hempty : ({} : Server).Current files := rfl
  have hcurrent : server.Current files := hempty.receiveAll hrun
  refine ⟨hcurrent, fun hwatched => ?_, loadExtensions_error_iff server.engine, ?_, ?_⟩
  · rw [Current, hwatched] at hcurrent
    exact (Except.ok.inj hcurrent).symm
  · intro params outcome hstep
    rw [step_start hstep]
    refine ⟨fun refusal => handleStart_error, fun result hreply => ?_⟩
    obtain ⟨options, hoptions, hsession, hwatched⟩ := handleStart_ok hreply
    exact ⟨options, hoptions, hsession, by rwa [hsession]⟩
  · intro message hmethod
    refine ⟨fun settings session hphase hid hparams hsession => ?_,
      receive_of_unreadable hmethod⟩
    rw [receive_didChangeConfiguration hphase hid hmethod hparams]
    exact changeConfiguration_load server hsession

end

/-- A default directory and one more, both without files. -/
def twoDirectories : Files :=
  FileTable.toFiles { directories := ["/a", "/d"] }

/-- A connection that is opened with a directory, and settings with one that is not there. -/
def openAndChange : List Incoming :=
  [{ id := some .null, method := "initialize",
     params := some (.record [("capabilities", .obj []),
       ("initializationOptions", .record [("extensionsPath", .arr [.ofString "/a"])])]) },
   { id := none, method := "workspace/didChangeConfiguration",
     params := some (.record [("settings", .record [("emmet",
       .record [("extensionsPath", .arr [.ofString "/b"])])])]) }]

theorem registry_eq_load_watched_openAndChange :
    let server := receiveAll { workingDirectory := "/", defaultDirectory := some "/d" }
      twoDirectories {} openAndChange
    server.watched = ["/d".toList, "/a".toList] ∧
    server.session.extensionsPath = ["/b".toList] ∧
    Extension.load twoDirectories server.watched = .ok server.engine.registry :=
  ⟨by decide, by decide, (registry_eq_load_watched _ _ (by decide)).1⟩

end Server

end Shorthand
