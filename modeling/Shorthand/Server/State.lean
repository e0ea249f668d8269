import Shorthand.Engine
import Shorthand.GrammarAt
import Shorthand.Server.Message
import Shorthand.Server.Reply

/-!
# `Shorthand.Server.State`: what the server keeps and does

The server keeps a session, the open documents, an engine, and the directories that
it watches. Each handler takes one message. The tables of the engine are always
those of the watched directories, as they were when they were last read.
-/

set_option autoImplicit false

namespace Shorthand

/-- What is fixed when the server starts. -/
structure ServerConfig where
  /-- Where relative directories start. -/
  workingDirectory : Text
  /-- A directory that is loaded before those of the session. -/
  defaultDirectory : Option Text := none

/-- Where a connection stands. -/
inductive Phase where
  | uninitialized
  | initialized
  | shutDown
  | exited
  deriving DecidableEq, Repr

/-- What the server keeps. -/
structure Server where
  phase : Phase := .uninitialized
  session : Session := {}
  /-- Open documents by the normal form of their identifiers. -/
  documents : Dict Document := []
  engine : Engine := {}
  /-- Directories that are read again when a file in them changes. -/
  watched : List Text := []

namespace Server

/-! ### Extension directories -/

/-- The default directory, when it is there. -/
def defaultDirectories (config : ServerConfig) (files : Files) : List Text :=
  match config.defaultDirectory with
  | none => []
  | some directory =>
    match files.stat directory with
    | some stat => if stat.type = .directory then [directory] else []
    | none => []

/-- Loads the default directory and those of a session into an engine. A failure with
the default directory is followed by a load without it, so it never decides. Gives
the directories that were loaded. -/
def loadExtensions (config : ServerConfig) (files : Files) (engine : Engine)
    (session : Session) : Engine × Except ExtensionError (List Text) :=
  let configured := session.directories config.workingDirectory
  let defaults := defaultDirectories config files
  match engine.load files (defaults ++ configured) with
  | (engine, .ok ()) => (engine, .ok (defaults ++ configured))
  | (engine, .error e) =>
    if defaults.isEmpty then (engine, .error e)
    else
      let (engine, outcome) := engine.load files configured
      (engine, outcome.map fun _ => configured)

/-! ### Handlers -/

/-- The first message. A failed load leaves everything as it was. -/
def start (config : ServerConfig) (files : Files) (server : Server)
    (options : Option Json) : Server × Reply :=
  let session := Session.ofInitialization options
  match loadExtensions config files server.engine session with
  | (engine, .error e) =>
    ({ server with engine },
      .error (.internal ("Failed to load extensions: ".toList ++ e.message)))
  | (engine, .ok watched) =>
    ({ server with phase := .initialized, session, engine, watched }, .ok capabilities)

/-- Changed settings. Without a readable section nothing happens. A failed load is
reported and leaves the engine and the watched directories, and the session
changes all the same. -/
def changeConfiguration (config : ServerConfig) (files : Files) (server : Server)
    (settings : Json) : Server × List UserMessage :=
  match Session.ofChange? settings with
  | none => (server, [])
  | some session =>
    match loadExtensions config files server.engine session with
    | (engine, .ok watched) => ({ server with session, engine, watched }, [])
    | (engine, .error e) =>
      ({ server with session, engine },
        [{ channel := .window, severity := .error,
           text := "Failed to reload Emmet extensions: ".toList ++ e.message }])

/-- A change of a file in a watched directory: all of them are read again. -/
def reload (files : Files) (server : Server) (path : Text) : Server × UserMessage :=
  match server.engine.load files server.watched with
  | (engine, .ok ()) =>
    ({ server with engine },
      { channel := .log, severity := .info,
        text := "Reloaded snippets after change to ".toList ++ path })
  | (engine, .error e) =>
    ({ server with engine },
      { channel := .log, severity := .error,
        text := "Failed to reload extensions: ".toList ++ e.message })

/-- An opened document takes the place of one with the same identifier. -/
def openDocument (server : Server) (uri : Text) (document : Document) : Server :=
  { server with documents := server.documents.insert uri document }

/-- Changes to a document. A document that is not open stays so. -/
def changeDocument (server : Server) (uri : Text) (version : Int) (changes : List Change) :
    Server :=
  match server.documents.get? uri with
  | some document =>
    { server with documents := server.documents.insert uri (document.apply changes version) }
  | none => server

/-- A closed document. -/
def closeDocument (server : Server) (uri : Text) : Server :=
  { server with documents := server.documents.erase uri }

/-- Completions at a position, in the grammar there. -/
def completions (server : Server) (uri : Text) (position : Position) :
    Option (List Completion.Item) :=
  match server.documents.get? uri with
  | none => none
  | some document =>
    server.engine.complete document position (server.session.grammarAt document position)
      server.session.settings

/-- The expansion of an abbreviation, in the grammar that the options name or else in
the one of the language. -/
def expandAbbreviation (server : Server) (abbreviation language : Text)
    (options : ExpandOptions) : Except ExpandError Text :=
  server.engine.expand abbreviation
    (options.withDefaultGrammar (server.session.grammarOf language))

end Server

end Shorthand
