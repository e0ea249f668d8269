import Shorthand.Server.Capabilities
import Shorthand.Server.Unanswered

/-!
# `Shorthand.Server.Message`: what a client sends

Requests and notifications with their parameters, the readers that take them from
JSON, and the method names of the protocol.
-/

set_option autoImplicit false

namespace Shorthand

/-- A request with its parameters. -/
inductive Request where
  /-- The first message, with the options of the session. -/
  | start (options : Option Json)
  | shutdown
  /-- Completions at a position of a document. -/
  | completion (uri : Text) (position : Position)
  /-- The expansion of an abbreviation for a language. -/
  | expandAbbreviation (abbreviation language : Text) (options : ExpandOptions)
  /-- A request of the protocol that this server does not answer. -/
  | unanswered

/-- A notification with its parameters. -/
inductive Notification where
  | initialized
  | exit
  | didOpen (uri : Text) (document : Document)
  | didChange (uri : Text) (version : Int) (changes : List Change)
  | didClose (uri : Text)
  | didChangeConfiguration (settings : Json)
  /-- A notification of the protocol that this server has no use for. -/
  | ignored

/-! ### Methods -/

/-- Notifications of the protocol that this server has no use for. -/
def ignoredMethods : List String := [
  "textDocument/willSave", "textDocument/didSave", "workspace/didChangeWorkspaceFolders",
  "workspace/didCreateFiles", "workspace/didRenameFiles", "workspace/didDeleteFiles",
  "workspace/didChangeWatchedFiles", "window/workDoneProgress/cancel", "$/cancelRequest"]

/-- What a method name stands for. -/
inductive Method where
  | start
  | shutdown
  | exit
  /-- Another request, with the reader of its parameters. -/
  | request (decode : Json → Option Request)
  /-- Another notification, with the reader of its parameters. -/
  | notification (decode : Json → Option Notification)

namespace Request

/-- The first message. -/
def start? (params : Json) : Option Request := do
  let fields ← Json.record?
    ["processId", "rootPath", "rootUri", "initializationOptions", "capabilities", "trace",
      "workspaceFolders", "clientInfo", "locale"] 9 params
  let _ ← Json.may? fields "processId" Json.unsigned32?
  let _ ← Json.may? fields "rootPath" Json.text?
  let _ ← Json.may? fields "rootUri" Json.uri?
  let _ ← Json.need? fields "capabilities" fun c => if c.isCapabilities then some () else none
  let _ ← Json.may? fields "trace" fun t =>
    t.text?.bind fun t => if Text.oneOf ["off", "messages", "verbose"] t then some t else none
  let _ ← Json.check? fields "workspaceFolders" (Json.isListOf Json.isWorkspaceFolder)
  let _ ← Json.check? fields "clientInfo" Json.isClientInfo
  let _ ← Json.may? fields "locale" Json.text?
  return .start (Dict.get? fields "initializationOptions")

/-- Completions at a position. -/
def completion? (params : Json) : Option Request := do
  let fields ← params.fields?
  let (uri, position) ← Json.documentPosition? fields
  let _ ← Json.check? fields "workDoneToken" Json.isToken
  let _ ← Json.check? fields "partialResultToken" Json.isToken
  let _ ← Json.check? fields "context" Json.isCompletionContext
  return .completion uri position

/-- The expansion of an abbreviation. -/
def expandAbbreviation? (params : Json) : Option Request := do
  let fields ← Json.record? ["abbreviation", "language", "options"] 2 params
  let abbreviation ← Json.need? fields "abbreviation" Json.text?
  let language ← Json.need? fields "language" Json.text?
  let options ← Json.may? fields "options" ExpandOptions.ofJson?
  return .expandAbbreviation abbreviation language (options.getD {})

/-- A request without an answer. -/
def unanswered? (fits : Json → Bool) (params : Json) : Option Request :=
  if fits params then some .unanswered else none

end Request

namespace Notification

/-- The end of the first exchange. -/
def initialized? (params : Json) : Option Notification :=
  (Json.record? [] 0 params).map fun _ => .initialized

/-- An opened document. -/
def didOpen? (params : Json) : Option Notification := do
  let fields ← Json.record? ["textDocument"] 1 params
  let item ← Json.need? fields "textDocument"
    (Json.record? ["uri", "languageId", "version", "text"] 4)
  let uri ← Json.need? item "uri" Json.uri?
  let language ← Json.need? item "languageId" Json.text?
  let version ← Json.need? item "version" Json.signed32?
  let text ← Json.need? item "text" Json.text?
  return .didOpen uri { language, version, text }

/-- Changes to a document. -/
def didChange? (params : Json) : Option Notification := do
  let fields ← Json.record? ["textDocument", "contentChanges"] 2 params
  let item ← Json.need? fields "textDocument" (Json.record? ["uri", "version"] 2)
  let uri ← Json.need? item "uri" Json.uri?
  let version ← Json.need? item "version" Json.signed32?
  let changes ← Json.need? fields "contentChanges" fun j =>
    j.items?.bind fun items => items.mapM Json.change?
  return .didChange uri version changes

/-- A closed document. -/
def didClose? (params : Json) : Option Notification := do
  let fields ← Json.record? ["textDocument"] 1 params
  let uri ← Json.need? fields "textDocument" Json.documentUri?
  return .didClose uri

/-- Changed settings. -/
def didChangeConfiguration? (params : Json) : Option Notification := do
  let fields ← Json.record? ["settings"] 1 params
  let settings ← Dict.get? fields "settings"
  return .didChangeConfiguration settings

end Notification

namespace Method

/-- Methods that the server acts on. -/
def answered : List (String × Method) := [
  ("initialize", .start), ("shutdown", .shutdown), ("exit", .exit),
  ("initialized", .notification Notification.initialized?),
  ("textDocument/didOpen", .notification Notification.didOpen?),
  ("textDocument/didChange", .notification Notification.didChange?),
  ("textDocument/didClose", .notification Notification.didClose?),
  ("workspace/didChangeConfiguration", .notification Notification.didChangeConfiguration?),
  ("textDocument/completion", .request Request.completion?),
  ("emmet/expandAbbreviation", .request Request.expandAbbreviation?)]

/-- All methods of the protocol. -/
def all : List (String × Method) :=
  answered ++
    unansweredMethods.map (fun (name, fits) => (name, .request (Request.unanswered? fits))) ++
    ignoredMethods.map fun name => (name, .notification fun _ => some .ignored)

/-- The method of a name. -/
def ofName? (name : Text) : Option Method :=
  (all.find? fun entry => entry.1.toList == name).map Prod.snd

end Method

end Shorthand
