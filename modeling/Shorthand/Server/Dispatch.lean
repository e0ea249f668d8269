import Shorthand.Server.State

/-!
# `Shorthand.Server.Dispatch`: messages in the life of a connection

A connection starts with one successful first message and ends with a shutdown and
an exit. Before the first message and after the shutdown, requests are refused and
notifications are passed over. A method that does not exist is refused at any time
before the exit.

A request method in a notification has no effect, and neither has a notification
method in a request, but the phase changes with the name of the method alone: after
`shutdown` and `exit` in either form the connection has moved on.
-/

set_option autoImplicit false

namespace Shorthand

namespace Server

/-- What one message leads to. A message without an answer has no reply. -/
structure Outcome where
  server : Server
  reply : Option Reply := none
  messages : List UserMessage := []

/-- The refusal of a request outside the working phase. -/
def phaseRefusal : Phase → Refusal
  | .uninitialized => .notInitialized
  | _ => .invalidRequest

/-- A refusal, for requests only. -/
def refuse (server : Server) (isRequest : Bool) (refusal : Refusal) : Outcome :=
  { server, reply := if isRequest then some (.error refusal) else none }

/-- The refusal of parameters that do not fit. -/
def unfit : Refusal :=
  .invalidParams "invalid params"

/-- A request in the working phase. -/
def request (server : Server) : Request → Reply
  | .completion uri position => .ok (Completion.listJson (server.completions uri position))
  | .expandAbbreviation abbreviation language options =>
    match server.expandAbbreviation abbreviation language options with
    | .ok text => .ok (.str text)
    | .error e => .error (.invalidParams e.message)
  | .start _ | .shutdown | .unanswered => .error .methodNotFound

/-- A notification in the working phase. -/
def notify (config : ServerConfig) (files : Files) (server : Server) :
    Notification → Server × List UserMessage
  | .initialized =>
    (server, [{ channel := .log, severity := .info, text := "emmet-language-server initialized" }])
  | .didOpen uri document => (server.openDocument uri document, [])
  | .didChange uri version changes => (server.changeDocument uri version changes, [])
  | .didClose uri => (server.closeDocument uri, [])
  | .didChangeConfiguration settings => server.changeConfiguration config files settings
  | .exit | .ignored => (server, [])

/-- The first message. -/
def handleStart (config : ServerConfig) (files : Files) (server : Server)
    (isRequest : Bool) (params : Option Json) : Outcome :=
  if server.phase ≠ .uninitialized then refuse server isRequest .invalidRequest
  else if !isRequest then { server }
  else
    match params.bind Request.start? with
    | some (.start options) =>
      let (server, reply) := server.start config files options
      { server, reply := some reply }
    | _ => refuse server isRequest unfit

/-- The shutdown, which takes no parameters. -/
def handleShutdown (server : Server) (isRequest : Bool) (params : Option Json) : Outcome :=
  if server.phase ≠ .initialized then refuse server isRequest (phaseRefusal server.phase)
  else
    let server := { server with phase := .shutDown }
    if !isRequest then { server }
    else
      match params with
      | some _ => refuse server isRequest unfit
      | none => { server := { server with watched := [] }, reply := some (.ok .null) }

/-- One message before the exit. -/
def handle (config : ServerConfig) (files : Files) (server : Server) (isRequest : Bool)
    (method : Text) (params : Option Json) : Outcome :=
  match Method.ofName? method with
  | none =>
    if Text.startsWith method "$/" then { server }
    else refuse server isRequest .methodNotFound
  | some .start => handleStart config files server isRequest params
  | some .shutdown => handleShutdown server isRequest params
  | some .exit => { server := { server with phase := .exited } }
  | some (.request decode) =>
    if server.phase ≠ .initialized then refuse server isRequest (phaseRefusal server.phase)
    else if !isRequest then { server }
    else
      match params.bind decode with
      | none => refuse server isRequest unfit
      | some r => { server, reply := some (server.request r) }
  | some (.notification decode) =>
    if server.phase ≠ .initialized then refuse server isRequest (phaseRefusal server.phase)
    else if isRequest then { server }
    else
      match params.bind decode with
      | none => { server }
      | some n =>
        let (server, messages) := server.notify config files n
        { server, messages }

/-- One message. After the exit there is no outcome. -/
def step (config : ServerConfig) (files : Files) (server : Server) (isRequest : Bool)
    (method : Text) (params : Option Json) : Option Outcome :=
  if server.phase = .exited then none
  else some (handle config files server isRequest method params)

end Server

end Shorthand
