import Shorthand.CommandLine
import Shorthand.Completion.Items
import Shorthand.Json.Basic

/-!
# `Shorthand.Server.Reply`: what a client gets

Answers to requests and messages to the user, in the form the protocol gives them.
-/

set_option autoImplicit false

namespace Shorthand

namespace Json

/-- An object with string literals for names. -/
def record (fields : List (String × Json)) : Json :=
  obj (fields.map fun (name, value) => (name.toList, value))

/-- A string literal. -/
def ofString (s : String) : Json :=
  str s.toList

end Json

/-- Why a request is refused. -/
inductive Refusal where
  | notInitialized
  | invalidRequest
  | methodNotFound
  | invalidParams (message : Text)
  | internal (message : Text)
  deriving DecidableEq, Repr

namespace Refusal

/-- The number of a refusal. -/
def code : Refusal → Int
  | notInitialized => -32002
  | invalidRequest => -32600
  | methodNotFound => -32601
  | invalidParams _ => -32602
  | internal _ => -32603

/-- The wording of a refusal. -/
def message : Refusal → Text
  | notInitialized => "Server not initialized"
  | invalidRequest => "Invalid request"
  | methodNotFound => "Method not found"
  | invalidParams message => message
  | internal message => message

end Refusal

/-- An answer to a request. -/
abbrev Reply := Except Refusal Json

/-- How a message reaches the user. -/
inductive Channel where
  /-- In the log. -/
  | log
  /-- In a window. -/
  | window
  deriving DecidableEq, Repr

/-- How serious a message is. -/
inductive Severity where
  | error
  | info
  deriving DecidableEq, Repr

/-- A message to the user. -/
structure UserMessage where
  channel : Channel
  severity : Severity
  text : Text
  deriving DecidableEq, Repr

namespace UserMessage

/-- The method that carries the message. -/
def method (m : UserMessage) : Text :=
  match m.channel with
  | .log => "window/logMessage"
  | .window => "window/showMessage"

/-- The number of the severity. -/
def typeNumber (m : UserMessage) : Nat :=
  match m.severity with
  | .error => 1
  | .info => 3

end UserMessage

/-! ### Completions -/

namespace Position

/-- A position in the form of the protocol. -/
def toJson (p : Position) : Json :=
  .record [("line", .ofNat p.line), ("character", .ofNat p.column)]

end Position

namespace Range

/-- A range in the form of the protocol. -/
def toJson (r : Range) : Json :=
  .record [("start", r.start.toJson), ("end", r.stop.toJson)]

end Range

namespace Completion

/-- An item in the form of the protocol. -/
def Item.toJson (item : Item) : Json :=
  .record [
    ("label", .str item.label),
    ("kind", .ofNat (if item.asSnippet then 15 else 10)),
    ("detail", .ofString "Emmet Abbreviation"),
    ("documentation", .str item.documentation),
    ("filterText", .str item.label),
    ("insertTextFormat", .ofNat 2),
    ("textEdit", .record [("range", item.range.toJson), ("newText", .str item.newText)])]

/-- A list of items in the form of the protocol, null when there is none. More may
come as more is typed, so it is never complete. -/
def listJson : Option (List Item) → Json
  | none => .null
  | some items => .record [("isIncomplete", .bool true), ("items", .arr (items.map Item.toJson))]

end Completion

/-! ### The first exchange -/

namespace Server

/-- Characters after which editors should ask for completions. -/
def triggerCharacters : List Char :=
  "!:>+^*).]@\x7d/abcdefghijklmnopqrstuvwxyz0123456789".toList

/-- What the server offers. -/
def capabilities : Json :=
  .record [
    ("capabilities", .record [
      ("completionProvider", .record [
        ("resolveProvider", .bool false),
        ("triggerCharacters", .arr (triggerCharacters.map fun c => .str [c]))]),
      ("textDocumentSync", .ofNat 2)]),
    ("serverInfo", .record [
      ("name", .ofString CommandLine.programName),
      ("version", .ofString CommandLine.programVersion)])]

end Server

end Shorthand
