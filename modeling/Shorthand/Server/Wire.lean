import Shorthand.Json.Printer
import Shorthand.Server.Dispatch

/-!
# `Shorthand.Server.Wire`: messages as they travel

A message travels as a JSON object behind a header that gives its size in bytes. A
request carries an identifier, which its answer carries back.
-/

set_option autoImplicit false

namespace Shorthand

/-- A message from a client. Without an identifier it is a notification. -/
structure Incoming where
  id : Option Json
  method : Text
  params : Option Json

namespace Incoming

/-- Reads a message. -/
def ofJson? (j : Json) : Option Incoming := do
  let fields ← j.fields?
  let method ← Json.need? fields "method" Json.text?
  return { id := Dict.get? fields "id", method, params := Dict.get? fields "params" }

end Incoming

namespace Wire

/-- The number for text that is not JSON. -/
def parseErrorCode : Int := -32700

/-- An object of the protocol. -/
def envelope (fields : List (String × Json)) : Json :=
  .record (("jsonrpc", .ofString "2.0") :: fields)

/-- An error under the identifier of its request. -/
def failure (id : Json) (code : Int) (message : Text) : Json :=
  envelope [("error", .record [("code", .ofInt code), ("message", .str message)]), ("id", id)]

/-- An answer under the identifier of its request. -/
def reply (id : Json) : Reply → Json
  | .ok result => envelope [("result", result), ("id", id)]
  | .error refusal => failure id refusal.code refusal.message

/-- A message to the user. -/
def userMessage (m : UserMessage) : Json :=
  envelope [
    ("method", .str m.method),
    ("params", .record [("type", .ofNat m.typeNumber), ("message", .str m.text)])]

/-- A message behind its header. -/
def frame (j : Json) : List UInt8 :=
  let body := Text.toUtf8 j.toText
  Text.toUtf8 ("Content-Length: ".toList ++ Text.ofNat body.length ++ "\r\n\r\n".toList) ++ body

/-- The size in a line of a header. -/
def sizeIn? (line : Text) : Option Nat :=
  match Text.splitOnce ':' line with
  | some (name, value) =>
    let digits := Text.trim value
    if Text.eqIgnoreCase (Text.trim name) "content-length" ∧ digits.all Text.isDigit then
      Text.readWord digits
    else none
  | none => none

end Wire

namespace Server

/-- The session that a message brings, if it brings one. -/
def newSession? (message : Incoming) : Option Session :=
  match Method.ofName? message.method with
  | some .start =>
    match message.params.bind Request.start? with
    | some (.start options) => some (Session.ofInitialization options)
    | _ => none
  | some (.notification decode) =>
    match message.params.bind decode with
    | some (.didChangeConfiguration settings) => Session.ofChange? settings
    | _ => none
  | _ => none

/-- The directories that the server may look into on a message. -/
def lookups (config : ServerConfig) (message : Incoming) : List Text :=
  match newSession? message with
  | some session => config.defaultDirectory.toList ++ session.directories config.workingDirectory
  | none => []

end Server

end Shorthand
