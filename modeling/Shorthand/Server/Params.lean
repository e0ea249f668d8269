import Shorthand.Document.Basic
import Shorthand.Options
import Shorthand.Uri.Parser

/-!
# `Shorthand.Server.Params`: parameters in JSON

Readers for the records of the protocol, and checks for those whose content the server
does not use. A record is read from an object by field names, or from an array by the
order of its fields. Unknown fields are passed over.
-/

set_option autoImplicit false

namespace Shorthand

namespace Json

/-- The fields of a record, of which the first `required` cannot be left out of an
array. -/
def record? (names : List String) (required : Nat) : Json → Option (Dict Json)
  | obj fields => some fields
  | arr items =>
    if required ≤ items.length ∧ items.length ≤ names.length then
      some ((names.map String.toList).zip items)
    else none
  | _ => none

/-- A field that has to be there. -/
def need? {α : Type} (fields : Dict Json) (name : Text) (decode : Json → Option α) : Option α :=
  (fields.get? name).bind decode

/-- A field that may be absent or null. -/
def may? {α : Type} (fields : Dict Json) (name : Text) (decode : Json → Option α) :
    Option (Option α) :=
  fieldOr fields name none fun value => (decode value).map some

/-- An unsigned 32-bit number. -/
def unsigned32? (j : Json) : Option Nat :=
  j.int?.bind fun n => if 0 ≤ n ∧ n < 0x100000000 then some n.toNat else none

/-- A signed 32-bit number. -/
def signed32? (j : Json) : Option Int :=
  j.int?.bind fun n => if -0x80000000 ≤ n ∧ n < 0x80000000 then some n else none

/-- An identifier in normal form. -/
def uri? (j : Json) : Option Text :=
  (j.text?.bind Uri.parse?).map Uri.toText

/-- A position. -/
def position? (j : Json) : Option Position := do
  let fields ← record? ["line", "character"] 2 j
  let line ← need? fields "line" unsigned32?
  let column ← need? fields "character" unsigned32?
  return { line, column }

/-- A range. -/
def range? (j : Json) : Option Range := do
  let fields ← record? ["start", "end"] 2 j
  let start ← need? fields "start" position?
  let stop ← need? fields "end" position?
  return { start, stop }

/-- A change to a document. -/
def change? (j : Json) : Option Change := do
  let fields ← record? ["range", "rangeLength", "text"] 3 j
  let range ← may? fields "range" range?
  let _ ← may? fields "rangeLength" unsigned32?
  let text ← need? fields "text" text?
  return { range, text }

/-- The identifier of a document. -/
def documentUri? (j : Json) : Option Text := do
  let fields ← record? ["uri"] 1 j
  need? fields "uri" uri?

/-- A token of progress reports. -/
def isToken : Json → Bool
  | str _ => true
  | j => j.signed32?.isSome

/-- The context of a completion request. -/
def isCompletionContext (j : Json) : Bool :=
  Option.isSome do
    let fields ← record? ["triggerKind", "triggerCharacter"] 2 j
    let _ ← need? fields "triggerKind" signed32?
    may? fields "triggerCharacter" text?

/-- A check of an optional field. -/
def check? (fields : Dict Json) (name : Text) (test : Json → Bool) : Option Unit :=
  fieldOr fields name () fun value => if test value then some () else none

/-- A document and a position in it, from the fields of a record. -/
def documentPosition? (fields : Dict Json) : Option (Text × Position) := do
  let uri ← need? fields "textDocument" documentUri?
  let position ← need? fields "position" position?
  return (uri, position)

/-! ### Checks -/

/-- A field of a record, with a check of its value. -/
structure Field where
  name : String
  /-- Whether the field may be absent or null. -/
  optional : Bool
  check : Json → Bool

/-- A field that has to be there. -/
def needed (name : String) (check : Json → Bool) : Field :=
  { name, optional := false, check }

/-- A field that may be absent or null. -/
def allowed (name : String) (check : Json → Bool) : Field :=
  { name, optional := true, check }

/-- Whether the values of an object fit the fields. -/
def fieldsFit (expected : List Field) (fields : Dict Json) : Bool :=
  expected.all fun field =>
    match fields.get? field.name.toList with
    | none => field.optional
    | some null => field.optional || field.check null
    | some value => field.check value

/-- Whether a value is an object with the fields. -/
def isObjectOf (expected : List Field) (j : Json) : Bool :=
  (j.fields?.map (fieldsFit expected)).getD false

/-- Whether a value is a record with the fields, as an object or as an array. -/
def isRecordOf (expected : List Field) (j : Json) : Bool :=
  ((record? (expected.map Field.name) expected.length j).map (fieldsFit expected)).getD false

/-- Whether a value is an array of such items. -/
def isListOf (check : Json → Bool) (j : Json) : Bool :=
  (j.items?.map (·.all check)).getD false

/-- Any value. -/
def isAny (_ : Json) : Bool := true

/-- A string. -/
def isText (j : Json) : Bool := j.text?.isSome

/-- A truth value. -/
def isBool (j : Json) : Bool := j.bool?.isSome

/-- A signed 32-bit number, as the protocol writes its enumerations. -/
def isSigned (j : Json) : Bool := j.signed32?.isSome

/-- A number. -/
def isNumber : Json → Bool
  | num _ => true
  | _ => false

/-- An identifier. -/
def isUri (j : Json) : Bool := j.uri?.isSome

/-- A position. -/
def isPosition (j : Json) : Bool := j.position?.isSome

/-- A range. -/
def isRange (j : Json) : Bool := j.range?.isSome

/-- The identifier of a document. -/
def isDocument (j : Json) : Bool := j.documentUri?.isSome

/-- A folder that a client has open. -/
def isWorkspaceFolder : Json → Bool :=
  isRecordOf [needed "uri" isUri, needed "name" isText]

/-- The name of a client and perhaps its version. -/
def isClientInfo : Json → Bool :=
  isRecordOf [needed "name" isText, allowed "version" isText]

end Json

end Shorthand
