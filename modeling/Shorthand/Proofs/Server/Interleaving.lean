import Shorthand.Proofs.Server.Watching

/-!
# `Shorthand.Proofs.Server.Interleaving`: changed settings beside a reload

A load takes two steps. The directories are read into fresh tables, and the tables are put in
place. While changed settings are handled, the task of the old watcher may read the old
directories again, because a file in them has changed. It stops when its watcher is dropped,
which the handler does after its own load. Nothing keeps the steps of the two apart.

`Step` has the steps of both, and `Run` their interleavings. By itself each side does what the
server does with one message or one change (`run_changeConfiguration`, `run_reload`). Together
they may lose the update: when the task puts its tables in place after the handler has done so
and before the watcher is dropped, the new directories are watched and the tables are those of
the old ones (`reload_overtakes_change`).

`registry_of_interleaving` says that this is the only way. The invariant is `Account`: what the
steps so far, in their order, say about the handler and the server. No step refers to the
tables in place, so the last swap decides.
-/

set_option autoImplicit false

namespace Shorthand

namespace Server

namespace Interleaving

/-! ### Steps -/

/-- How far the handler of changed settings has come, with what it holds. -/
inductive Handler where
  | waiting
  | read (registry : Registry) (directories : List Text)
  | swapped (directories : List Text)
  | rewatched
  | finished

/-- The old watcher is there, and its task with it. -/
def Handler.KeepsWatcher : Handler → Prop
  | waiting | read _ _ | swapped _ => True
  | rewatched | finished => False

/-- The server between steps of the handler and of the task. -/
structure Joint where
  server : Server
  handler : Handler := .waiting
  /-- Tables that the task has read and not put in place. -/
  fresh : Option Registry := none

/-- The kinds of steps. The files are those at the time of reading. -/
inductive Label where
  | readNew (files : Files)
  | swapNew
  | rewatch
  | replaceSession
  | readOld (files : Files)
  | swapOld

/-- The steps of a handler whose load succeeds, and of the task of the old watcher. -/
inductive Step (config : ServerConfig) (session : Session) : Joint → Label → Joint → Prop where
  | readNew {server : Server} {fresh : Option Registry} {files : Files} {registry : Registry}
      {directories : List Text}
      (hload : loadExtensions config files server.engine session
        = ({ registry }, .ok directories)) :
      Step config session ⟨server, .waiting, fresh⟩ (.readNew files)
        ⟨server, .read registry directories, fresh⟩
  | swapNew {server : Server} {fresh : Option Registry} {registry : Registry}
      {directories : List Text} :
      Step config session ⟨server, .read registry directories, fresh⟩ .swapNew
        ⟨{ server with engine := { registry } }, .swapped directories, fresh⟩
  /-- The task goes with its watcher, and so does what it has read. -/
  | rewatch {server : Server} {fresh : Option Registry} {directories : List Text} :
      Step config session ⟨server, .swapped directories, fresh⟩ .rewatch
        ⟨{ server with watched := directories }, .rewatched, none⟩
  | replaceSession {server : Server} {fresh : Option Registry} :
      Step config session ⟨server, .rewatched, fresh⟩ .replaceSession
        ⟨{ server with session }, .finished, fresh⟩
  | readOld {server : Server} {handler : Handler} {files : Files} {registry : Registry}
      (hkeeps : handler.KeepsWatcher)
      (hload : Extension.load files server.watched = .ok registry) :
      Step config session ⟨server, handler, none⟩ (.readOld files)
        ⟨server, handler, some registry⟩
  | failOld {server : Server} {handler : Handler} {files : Files} {e : ExtensionError}
      (hkeeps : handler.KeepsWatcher)
      (hload : Extension.load files server.watched = .error e) :
      Step config session ⟨server, handler, none⟩ (.readOld files) ⟨server, handler, none⟩
  | swapOld {server : Server} {handler : Handler} {registry : Registry}
      (hkeeps : handler.KeepsWatcher) :
      Step config session ⟨server, handler, some registry⟩ .swapOld
        ⟨{ server with engine := { registry } }, handler, none⟩

/-- Steps one after another. -/
inductive Run (config : ServerConfig) (session : Session) :
    Joint → List Label → Joint → Prop where
  | nil {joint : Joint} : Run config session joint [] joint
  | cons {joint next last : Joint} {label : Label} {schedule : List Label}
      (hstep : Step config session joint label next)
      (hrest : Run config session next schedule last) :
      Run config session joint (label :: schedule) last

section

variable {config : ServerConfig} {session : Session} {server : Server}

/-! ### Each side by itself -/

/-- A load that succeeds does so over any tables, with the same result. -/
theorem loadExtensions_anyEngine {files : Files} {engine : Engine} {registry : Registry}
    {directories : List Text}
    (h : loadExtensions config files engine session = ({ registry }, .ok directories))
    (other : Engine) :
    loadExtensions config files other session = ({ registry }, .ok directories) := by
  unfold loadExtensions at h ⊢
  simp only [Engine.load] at h ⊢
  cases hall : Extension.load files (defaultDirectories config files ++ configured config session)
    with
  | ok loaded => simpa only [hall] using h
  | error e =>
    simp only [hall] at h ⊢
    by_cases hdefaults : (defaultDirectories config files).isEmpty
    · simp [hdefaults] at h
    · rw [if_neg hdefaults] at h ⊢
      cases hconfigured : Extension.load files (configured config session) with
      | ok loaded => simpa only [hconfigured] using h
      | error e' => simp [hconfigured, Except.map] at h

/-- What a load that succeeds has read. -/
theorem load_of_loadExtensions {files : Files} {engine : Engine} {registry : Registry}
    {directories : List Text}
    (h : loadExtensions config files engine session = ({ registry }, .ok directories)) :
    Extension.load files directories = .ok registry := by
  obtain ⟨loaded, defaults, hload, hall⟩ | ⟨e, hload, -⟩ :=
    loadExtensions_cases config files engine session
  · rw [h] at hload
    cases hload
    exact hall
  · rw [h] at hload
    cases hload

/-- The steps of the handler are what the server does with changed settings. -/
theorem run_changeConfiguration {files : Files} {settings : Json} {registry : Registry}
    {directories : List Text} (hsession : Session.ofChange? settings = some session)
    (hload : loadExtensions config files server.engine session
      = ({ registry }, .ok directories)) :
    Run config session { server } [.readNew files, .swapNew, .rewatch, .replaceSession]
      { server := (server.changeConfiguration config files settings).1
        handler := .finished } := by
  have hserver : (server.changeConfiguration config files settings).1
      = { server with session, engine := { registry }, watched := directories } := by
    simp only [changeConfiguration, hsession, hload]
  rw [hserver]
  exact .cons (.readNew hload) (.cons .swapNew (.cons .rewatch (.cons .replaceSession .nil)))

/-- The steps of the task are what the server does with a changed file. -/
theorem run_reload {files : Files} {registry : Registry} (path : Text)
    (hload : Extension.load files server.watched = .ok registry) :
    Run config session { server } [.readOld files, .swapOld]
      { server := (server.reload files path).1 } := by
  have hserver : (server.reload files path).1 = { server with engine := { registry } } := by
    simp only [reload, Engine.load, hload]
  rw [hserver]
  exact .cons (.readOld trivial hload) (.cons (.swapOld trivial) .nil)

/-! ### The order of swaps -/

def Label.isSwapNew : Label → Bool
  | swapNew => true
  | _ => false

def Label.isSwapOld : Label → Bool
  | swapOld => true
  | _ => false

/-- The task puts tables in place after the handler has done so. -/
def overtaken : List Label → Bool
  | [] => false
  | label :: rest => (label.isSwapNew && rest.any Label.isSwapOld) || overtaken rest

theorem overtaken_concat (done : List Label) (label : Label) :
    overtaken (done ++ [label])
      = (overtaken done || (done.any Label.isSwapNew && label.isSwapOld)) := by
  induction done with
  | nil => simp [overtaken]
  | cons first rest ih =>
    simp only [List.cons_append, overtaken, ih, List.any_append, List.any_cons, List.any_nil,
      Bool.or_false]
    cases first.isSwapNew <;> cases label.isSwapOld <;> simp

/-- Nothing can overtake a handler that has not put its tables in place. -/
theorem overtaken_of_none {done : List Label} (h : done.any Label.isSwapNew = false) :
    overtaken done = false := by
  induction done with
  | nil => rfl
  | cons first rest ih =>
    rw [List.any_cons, Bool.or_eq_false_iff] at h
    rw [overtaken, h.1, ih h.2]
    rfl

/-! ### What the steps so far say -/

/-- The handler has read the tables. -/
def ReadNew (config : ServerConfig) (session : Session) (server : Server) (done : List Label)
    (registry : Registry) (directories : List Text) : Prop :=
  ∃ files, .readNew files ∈ done ∧
    loadExtensions config files server.engine session = ({ registry }, .ok directories)

/-- The task has read the tables. -/
def ReadOld (server : Server) (done : List Label) (registry : Registry) : Prop :=
  ∃ files, .readOld files ∈ done ∧ Extension.load files server.watched = .ok registry

/-- The tables in place once the handler has put its own there. -/
structure InPlace (server : Server) (done : List Label) (registry current : Registry) :
    Prop where
  kept : overtaken done = false → current = registry
  lost : overtaken done = true → ReadOld server done current

theorem ReadNew.concat {done : List Label} {registry : Registry} {directories : List Text}
    (h : ReadNew config session server done registry directories) (label : Label) :
    ReadNew config session server (done ++ [label]) registry directories := by
  obtain ⟨files, hmem, hload⟩ := h
  exact ⟨files, List.mem_append_left _ hmem, hload⟩

theorem ReadOld.concat {done : List Label} {registry : Registry}
    (h : ReadOld server done registry) (label : Label) :
    ReadOld server (done ++ [label]) registry := by
  obtain ⟨files, hmem, hload⟩ := h
  exact ⟨files, List.mem_append_left _ hmem, hload⟩

/-- Only a swap of the task changes which tables are in place. -/
theorem InPlace.concat {done : List Label} {registry current : Registry}
    (h : InPlace server done registry current) {label : Label}
    (hlabel : label.isSwapOld = false) :
    InPlace server (done ++ [label]) registry current := by
  have hovertaken : overtaken (done ++ [label]) = overtaken done := by
    rw [overtaken_concat, hlabel, Bool.and_false, Bool.or_false]
  constructor
  · intro hkept
    exact h.kept (hovertaken ▸ hkept)
  · intro hlost
    exact (h.lost (hovertaken ▸ hlost)).concat label

theorem inPlace_swapNew {done : List Label} (registry : Registry)
    (hnone : done.any Label.isSwapNew = false) :
    InPlace server (done ++ [.swapNew]) registry registry := by
  refine ⟨fun _ => rfl, ?_⟩
  intro hlost
  rw [overtaken_concat, overtaken_of_none hnone, hnone] at hlost
  contradiction

theorem inPlace_swapOld {done : List Label} {registry current : Registry}
    (hswapped : done.any Label.isSwapNew = true) (hread : ReadOld server done current) :
    InPlace server (done ++ [.swapOld]) registry current := by
  have hlost : overtaken (done ++ [.swapOld]) = true := by
    rw [overtaken_concat, hswapped]
    exact Bool.or_true _
  refine ⟨?_, fun _ => hread.concat _⟩
  intro hkept
  rw [hkept] at hlost
  contradiction

/-- The handler and the server after steps. Up to its own swap the handler says nothing about
the engine, and after it the engine is accounted for by the order of the swaps. -/
inductive Account (config : ServerConfig) (session : Session) (server : Server)
    (done : List Label) : Handler → Server → Prop where
  | waiting {engine : Engine} (hnone : done.any Label.isSwapNew = false) :
      Account config session server done .waiting { server with engine }
  | read {engine : Engine} {registry : Registry} {directories : List Text}
      (hnone : done.any Label.isSwapNew = false)
      (hread : ReadNew config session server done registry directories) :
      Account config session server done (.read registry directories) { server with engine }
  | swapped {engine : Engine} {registry : Registry} {directories : List Text}
      (hswapped : done.any Label.isSwapNew = true)
      (hread : ReadNew config session server done registry directories)
      (hplace : InPlace server done registry engine.registry) :
      Account config session server done (.swapped directories) { server with engine }
  | rewatched {engine : Engine} {registry : Registry} {directories : List Text}
      (hread : ReadNew config session server done registry directories)
      (hplace : InPlace server done registry engine.registry) :
      Account config session server done .rewatched
        { server with engine, watched := directories }
  | finished {engine : Engine} {registry : Registry} {directories : List Text}
      (hread : ReadNew config session server done registry directories)
      (hplace : InPlace server done registry engine.registry) :
      Account config session server done .finished
        { server with engine, session, watched := directories }

/-- A step that puts no tables in place changes no account. -/
theorem Account.concat {done : List Label} {handler : Handler} {current : Server}
    (h : Account config session server done handler current) (label : Label)
    (hnew : label.isSwapNew = false) (hold : label.isSwapOld = false) :
    Account config session server (done ++ [label]) handler current := by
  have hany : (done ++ [label]).any Label.isSwapNew = done.any Label.isSwapNew := by
    simp [hnew]
  cases h with
  | waiting hnone => exact .waiting (hany.trans hnone)
  | read hnone hread => exact .read (hany.trans hnone) (hread.concat label)
  | swapped hswapped hread hplace =>
    exact .swapped (hany.trans hswapped) (hread.concat label) (hplace.concat hold)
  | rewatched hread hplace => exact .rewatched (hread.concat label) (hplace.concat hold)
  | finished hread hplace => exact .finished (hread.concat label) (hplace.concat hold)

/-- While the old watcher is there, the old directories are watched. -/
theorem Account.watched_eq {done : List Label} {handler : Handler} {current : Server}
    (h : Account config session server done handler current) (hkeeps : handler.KeepsWatcher) :
    current.watched = server.watched := by
  cases h with
  | waiting | read | swapped => rfl
  | rewatched | finished => exact hkeeps.elim

/-- The invariant of interleavings. -/
structure Accounts (config : ServerConfig) (session : Session) (server : Server)
    (done : List Label) (joint : Joint) : Prop where
  account : Account config session server done joint.handler joint.server
  fresh : ∀ registry, joint.fresh = some registry → ReadOld server done registry

theorem Accounts.step {done : List Label} {joint next : Joint} {label : Label}
    (h : Accounts config session server done joint)
    (hstep : Step config session joint label next) :
    Accounts config session server (done ++ [label]) next := by
  obtain ⟨account, fresh⟩ := h
  have hfresh : ∀ registry, joint.fresh = some registry →
      ReadOld server (done ++ [label]) registry := by
    intro registry hregistry
    exact (fresh registry hregistry).concat label
  cases hstep with
  | @readNew _ _ files _ _ hload =>
    refine ⟨?_, hfresh⟩
    cases account.concat (.readNew files) rfl rfl with
    | waiting hnone =>
      -- The task may have changed the engine meanwhile, and a load does not depend on it.
      exact .read hnone ⟨_, List.mem_concat_self, loadExtensions_anyEngine hload server.engine⟩
  | swapNew =>
    refine ⟨?_, hfresh⟩
    cases account with
    | read hnone hread =>
      exact .swapped (by simp [Label.isSwapNew]) (hread.concat _) (inPlace_swapNew _ hnone)
  | rewatch =>
    refine ⟨?_, nofun⟩
    cases account.concat .rewatch rfl rfl with
    | swapped hswapped hread hplace => exact .rewatched hread hplace
  | replaceSession =>
    refine ⟨?_, hfresh⟩
    cases account.concat .replaceSession rfl rfl with
    | rewatched hread hplace => exact .finished hread hplace
  | readOld hkeeps hload =>
    refine ⟨account.concat _ rfl rfl, ?_⟩
    intro registry hregistry
    rw [account.watched_eq hkeeps, Option.some.inj hregistry] at hload
    exact ⟨_, List.mem_concat_self, hload⟩
  | failOld hkeeps hload => exact ⟨account.concat _ rfl rfl, nofun⟩
  | swapOld hkeeps =>
    refine ⟨?_, nofun⟩
    -- Before the handler's swap the engine does not matter, and after it this swap decides.
    cases account with
    | waiting hnone => exact .waiting (by simpa [Label.isSwapNew] using hnone)
    | read hnone hread =>
      exact .read (by simpa [Label.isSwapNew] using hnone) (hread.concat _)
    | swapped hswapped hread hplace =>
      exact .swapped (by simp [hswapped]) (hread.concat _)
        (inPlace_swapOld hswapped (fresh _ rfl))
    | rewatched | finished => exact hkeeps.elim

theorem Accounts.run {done : List Label} {joint last : Joint} {schedule : List Label}
    (h : Accounts config session server done joint)
    (hrun : Run config session joint schedule last) :
    Accounts config session server (done ++ schedule) last := by
  induction hrun generalizing done with
  | nil => rwa [List.append_nil]
  | cons hstep hrest ih =>
    rw [List.append_cons]
    exact ih (h.step hstep)

/-- When changed settings whose directories load have been handled, whatever the task of the
old watcher did meanwhile, the session and the watched directories are the new ones. The
tables are those that the handler has read from the new directories, unless the task has put
tables in place after the handler. Then they are tables of the old directories. -/
theorem registry_of_interleaving {schedule : List Label} {last : Joint}
    (hrun : Run config session { server } schedule last) (hdone : last.handler = .finished) :
    ∃ files directories registry,
      .readNew files ∈ schedule ∧
      loadExtensions config files server.engine session = ({ registry }, .ok directories) ∧
      Extension.load files directories = .ok registry ∧
      last.server
        = { server with engine := last.server.engine, session, watched := directories } ∧
      (overtaken schedule = false → last.server.engine.registry = registry) ∧
      (overtaken schedule = true →
        ∃ stale, .readOld stale ∈ schedule ∧
          Extension.load stale server.watched = .ok last.server.engine.registry) := by
  have hstart : Accounts config session server [] { server } := ⟨.waiting rfl, nofun⟩
  have hlast := (hstart.run hrun).account
  rw [List.nil_append, hdone] at hlast
  generalize last.server = current at hlast ⊢
  cases hlast with
  | @finished engine registry directories hread hplace =>
    obtain ⟨files, hmem, hload⟩ := hread
    exact ⟨files, directories, registry, hmem, hload, load_of_loadExtensions hload, rfl,
      hplace.kept, hplace.lost⟩

end

/-! ### Two interleavings -/

/-- A file with one snippet, named `x`. -/
def snippetsOf (text : String) : List UInt8 :=
  Text.toUtf8
    (Json.record [("html", .record [("snippets", .record [("x", .ofString text)])])]).toText

/-- Directories with different snippets of one name. -/
def oldAndNew : Files :=
  FileTable.toFiles
    { directories := ["/new", "/old"]
      files := [("/new/snippets.json", some (snippetsOf "new")),
        ("/old/snippets.json", some (snippetsOf "old"))] }

/-- A server that was started with the one directory. -/
def watchesOld : Server :=
  (Server.start { workingDirectory := "/" } oldAndNew {}
    (some (.record [("extensionsPath", .arr [.ofString "/old"])]))).1

theorem watched_watchesOld : watchesOld.watched = ["/old".toList] := by
  decide +kernel

/-- A session with the other directory. -/
def newSession : Session :=
  { extensionsPath := ["/new"] }

theorem exists_load {files : Files} {directories : List Text} {snippet : Text}
    (h : (Extension.load files directories).toOption.map (fun registry =>
      registry.snippet? "html" "x") = some (some snippet)) :
    ∃ registry, Extension.load files directories = .ok registry ∧
      registry.snippet? "html" "x" = some snippet := by
  cases hload : Extension.load files directories with
  | error e => simp [hload, Except.toOption] at h
  | ok registry => exact ⟨registry, rfl, by simpa [hload, Except.toOption] using h⟩

theorem load_old : ∃ registry, Extension.load oldAndNew watchesOld.watched = .ok registry ∧
    registry.snippet? "html" "x" = some "old".toList := by
  rw [watched_watchesOld]
  exact exists_load (by decide +kernel)

theorem load_new : ∃ registry, Extension.load oldAndNew ["/new"] = .ok registry ∧
    registry.snippet? "html" "x" = some "new".toList :=
  exists_load (by decide +kernel)

/-- Without a default directory the configured ones are all. -/
theorem loadExtensions_newSession {engine : Engine} {registry : Registry}
    (h : Extension.load oldAndNew ["/new"] = .ok registry) :
    loadExtensions { workingDirectory := "/" } oldAndNew engine newSession
      = ({ registry }, .ok ["/new"]) := by
  have hconfigured : newSession.directories "/" = ["/new".toList] := by decide
  simp only [loadExtensions, defaultDirectories, hconfigured, List.nil_append, Engine.load, h]

/-- The steps of a reload between the handler's own load and the end of the old watcher. -/
theorem run_reload_between {server : Server} {old new : Registry}
    (hold : Extension.load oldAndNew server.watched = .ok old)
    (hnew : Extension.load oldAndNew ["/new"] = .ok new) :
    Run { workingDirectory := "/" } newSession { server }
      [.readNew oldAndNew, .swapNew, .readOld oldAndNew, .swapOld, .rewatch, .replaceSession]
      { server := { server with engine := { registry := old }, session := newSession,
                                watched := ["/new"] }
        handler := .finished } :=
  .cons (.readNew (loadExtensions_newSession hnew)) (.cons .swapNew
    (.cons (.readOld trivial hold) (.cons (.swapOld trivial)
      (.cons .rewatch (.cons .replaceSession .nil)))))

/-- A reload between the handler's own load and the end of the old watcher loses the update:
the new directory is watched, and the snippet is the one of the old directory. -/
theorem reload_overtakes_change :
    ∃ last, Run { workingDirectory := "/" } newSession { server := watchesOld }
        [.readNew oldAndNew, .swapNew, .readOld oldAndNew, .swapOld, .rewatch, .replaceSession]
        last ∧
      last.handler = .finished ∧
      last.server.watched = ["/new".toList] ∧
      last.server.engine.registry.snippet? "html" "x" = some "old".toList ∧
      Extension.load oldAndNew last.server.watched ≠ .ok last.server.engine.registry := by
  obtain ⟨old, hold, hsnippet⟩ := load_old
  obtain ⟨new, hnew, hsnippet'⟩ := load_new
  refine ⟨_, run_reload_between hold hnew, rfl, rfl, hsnippet, ?_⟩
  intro hcurrent
  have hsame : new = old := Except.ok.inj (hnew.symm.trans hcurrent)
  rw [hsame, hsnippet] at hsnippet'
  exact absurd hsnippet' (by decide)

/-- The steps of a reload that is over before the handler puts its tables in place. -/
theorem run_reload_first {server : Server} {old new : Registry}
    (hold : Extension.load oldAndNew server.watched = .ok old)
    (hnew : Extension.load oldAndNew ["/new"] = .ok new) :
    Run { workingDirectory := "/" } newSession { server }
      [.readOld oldAndNew, .readNew oldAndNew, .swapOld, .swapNew, .rewatch, .replaceSession]
      { server := { server with engine := { registry := new }, session := newSession,
                                watched := ["/new"] }
        handler := .finished } :=
  .cons (.readOld trivial hold) (.cons (.readNew (loadExtensions_newSession hnew))
    (.cons (.swapOld trivial) (.cons .swapNew (.cons .rewatch (.cons .replaceSession .nil)))))

theorem registry_of_interleaving_reloadFirst :
    ∃ last, Run { workingDirectory := "/" } newSession { server := watchesOld }
        [.readOld oldAndNew, .readNew oldAndNew, .swapOld, .swapNew, .rewatch, .replaceSession]
        last ∧
      last.handler = .finished ∧
      last.server.engine.registry.snippet? "html" "x" = some "new".toList := by
  obtain ⟨old, hold, -⟩ := load_old
  obtain ⟨new, hnew, hsnippet⟩ := load_new
  have hrun := run_reload_first hold hnew
  refine ⟨_, hrun, rfl, ?_⟩
  obtain ⟨files, directories, registry, hmem, hload, -, -, hkept, -⟩ :=
    registry_of_interleaving hrun rfl
  obtain rfl : files = oldAndNew := by simpa using hmem
  rw [loadExtensions_newSession hnew] at hload
  cases hload
  rw [hkept rfl]
  exact hsnippet

end Interleaving

end Server

end Shorthand
