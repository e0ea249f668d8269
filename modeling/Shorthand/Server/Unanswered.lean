import Shorthand.Server.Params

/-!
# `Shorthand.Server.Unanswered`: requests the server does not answer

The protocol has many more requests than a server has to answer. Their parameters are
checked all the same: a request whose parameters do not fit is refused for that, and only
one whose parameters fit because the server does not have the method.
-/

set_option autoImplicit false

namespace Shorthand

namespace Json

/-! ### Parts of parameters -/

/-- The fields that name a document. -/
def documentFields : List Field := [needed "textDocument" isDocument]

/-- The fields that name a place in a document. -/
def placeFields : List Field := documentFields ++ [needed "position" isPosition]

/-- The field of the token under which progress is reported. -/
def progressFields : List Field := [allowed "workDoneToken" isToken]

/-- The fields of the tokens under which progress and parts of a result are reported. -/
def reportFields : List Field := progressFields ++ [allowed "partialResultToken" isToken]

/-- A range of a document. -/
def isLocation : Json → Bool :=
  isRecordOf [needed "uri" isUri, needed "range" isRange]

/-- A change of a range. -/
def isTextEdit : Json → Bool :=
  isRecordOf [needed "range" isRange, needed "newText" isText]

/-- A command that a client can send back. -/
def isCommand : Json → Bool :=
  isRecordOf [needed "title" isText, needed "command" isText, allowed "arguments" (isListOf isAny)]

/-- Plain text or text with markup. -/
def isDocumentation (j : Json) : Bool :=
  j.isText || isRecordOf [
    needed "kind" (fun k => (k.text?.map (Text.oneOf ["plaintext", "markdown"])).getD false),
    needed "value" isText] j

/-- An item of a hierarchy of calls or types. -/
def isHierarchyItem (tags : Json → Bool) : Json → Bool :=
  isRecordOf [needed "name" isText, needed "kind" isSigned, allowed "tags" tags,
    allowed "detail" isText, needed "uri" isUri, needed "range" isRange,
    needed "selectionRange" isRange, allowed "data" isAny]

/-- A problem in a document. -/
def isDiagnostic : Json → Bool :=
  isRecordOf [needed "range" isRange, allowed "severity" isSigned, allowed "code" isToken,
    allowed "codeDescription" (isRecordOf [needed "href" isUri]), allowed "source" isText,
    needed "message" isText,
    allowed "relatedInformation"
      (isListOf (isRecordOf [needed "location" isLocation, needed "message" isText])),
    allowed "tags" (isListOf isSigned), allowed "data" isAny]

/-- How a document is to be formatted. A further option is a truth value, a number or a
string. -/
def isFormatting (j : Json) : Bool :=
  let named := [needed "tabSize" (·.unsigned32?.isSome), needed "insertSpaces" isBool,
    allowed "trimTrailingWhitespace" isBool, allowed "insertFinalNewline" isBool,
    allowed "trimFinalNewlines" isBool]
  isObjectOf named j &&
    (j.fields?.getD []).all fun (name, value) =>
      Text.oneOf (named.map Field.name) name || value.isBool || value.isToken

/-- A part of the label of a hint. -/
def isHintPart : Json → Bool :=
  isRecordOf [needed "value" isText, allowed "tooltip" isDocumentation,
    allowed "location" isLocation, allowed "command" isCommand]

/-- A hint between the characters of a document. -/
def isHint : Json → Bool :=
  isRecordOf [needed "position" isPosition,
    needed "label" (fun label => label.isText || isListOf isHintPart label),
    allowed "kind" isSigned, allowed "textEdits" (isListOf isTextEdit),
    allowed "tooltip" isDocumentation, allowed "paddingLeft" isBool, allowed "paddingRight" isBool,
    allowed "data" isAny]

/-- An edit that a completion makes. -/
def isCompletionEdit (j : Json) : Bool :=
  isTextEdit j ||
    isRecordOf [needed "newText" isText, needed "insert" isRange, needed "replace" isRange] j

/-- A completion. -/
def isCompletionItem : Json → Bool :=
  isRecordOf [needed "label" isText,
    allowed "labelDetails" (isRecordOf [allowed "detail" isText, allowed "description" isText]),
    allowed "kind" isSigned, allowed "detail" isText, allowed "documentation" isDocumentation,
    allowed "deprecated" isBool, allowed "preselect" isBool, allowed "sortText" isText,
    allowed "filterText" isText, allowed "insertText" isText, allowed "insertTextFormat" isSigned,
    allowed "insertTextMode" isSigned, allowed "textEdit" isCompletionEdit,
    allowed "additionalTextEdits" (isListOf isTextEdit), allowed "command" isCommand,
    allowed "commitCharacters" (isListOf isText), allowed "data" isAny,
    allowed "tags" (isListOf isSigned)]

/-- An action on code. -/
def isCodeAction : Json → Bool :=
  isRecordOf [needed "title" isText, allowed "kind" isText,
    allowed "diagnostics" (isListOf isDiagnostic), allowed "edit" (·.fields?.isSome),
    allowed "command" isCommand, allowed "isPreferred" isBool,
    allowed "disabled" (isRecordOf [needed "reason" isText]), allowed "data" isAny]

/-- Files by their identifiers. -/
def isFileList (fields : List Field) : Json → Bool :=
  isRecordOf [needed "files" (isListOf (isRecordOf fields))]

end Json

open Json

/-- Requests of the protocol that this server does not answer, with the check of their
parameters. -/
def unansweredMethods : List (String × (Json → Bool)) :=
  let place := isObjectOf (placeFields ++ reportFields)
  let document := isObjectOf (documentFields ++ reportFields)
  let callItem := isObjectOf (needed "item" (isHierarchyItem (isListOf isSigned)) :: reportFields)
  let typeItem := isObjectOf (needed "item" (isHierarchyItem isSigned) :: reportFields)
  let range := needed "range" isRange
  let formatting := needed "options" isFormatting
  [
  ("textDocument/willSaveWaitUntil", isRecordOf (documentFields ++ [needed "reason" isSigned])),
  ("textDocument/declaration", place), ("textDocument/definition", place),
  ("textDocument/typeDefinition", place), ("textDocument/implementation", place),
  ("textDocument/references", isObjectOf (placeFields ++ reportFields ++
    [needed "context" (isRecordOf [needed "includeDeclaration" isBool])])),
  ("textDocument/prepareCallHierarchy", isObjectOf (placeFields ++ progressFields)),
  ("callHierarchy/incomingCalls", callItem), ("callHierarchy/outgoingCalls", callItem),
  ("textDocument/prepareTypeHierarchy", isObjectOf (placeFields ++ progressFields)),
  ("typeHierarchy/supertypes", typeItem), ("typeHierarchy/subtypes", typeItem),
  ("textDocument/documentHighlight", place), ("textDocument/documentLink", document),
  ("documentLink/resolve", isRecordOf [range, allowed "target" isUri, allowed "tooltip" isText,
    allowed "data" isAny]),
  ("textDocument/hover", isObjectOf (placeFields ++ progressFields)),
  ("textDocument/codeLens", document),
  ("codeLens/resolve", isRecordOf [range, allowed "command" isCommand, allowed "data" isAny]),
  ("textDocument/foldingRange", document),
  ("textDocument/selectionRange",
    isObjectOf (documentFields ++ reportFields ++ [needed "positions" (isListOf isPosition)])),
  ("textDocument/documentSymbol", document), ("textDocument/semanticTokens/full", document),
  ("textDocument/semanticTokens/full/delta",
    isObjectOf (documentFields ++ reportFields ++ [needed "previousResultId" isText])),
  ("textDocument/semanticTokens/range", isObjectOf (documentFields ++ reportFields ++ [range])),
  ("textDocument/inlineValue", isObjectOf (documentFields ++ progressFields ++ [range,
    needed "context"
      (isRecordOf [needed "frameId" isSigned, needed "stoppedLocation" isRange])])),
  ("textDocument/inlayHint", isObjectOf (documentFields ++ progressFields ++ [range])),
  ("inlayHint/resolve", isHint), ("textDocument/moniker", place),
  ("completionItem/resolve", isCompletionItem),
  ("textDocument/diagnostic", isObjectOf (documentFields ++ reportFields ++
    [allowed "identifier" isText, allowed "previousResultId" isText])),
  ("workspace/diagnostic", isObjectOf (reportFields ++ [allowed "identifier" isText,
    needed "previousResultIds"
      (isListOf (isRecordOf [needed "uri" isUri, needed "value" isText]))])),
  ("textDocument/signatureHelp", isObjectOf (placeFields ++ progressFields ++
    [allowed "context" (isRecordOf [needed "triggerKind" isSigned,
      allowed "triggerCharacter" isText, needed "isRetrigger" isBool,
      allowed "activeSignatureHelp" (·.fields?.isSome)])])),
  ("textDocument/codeAction", isObjectOf (documentFields ++ reportFields ++ [range,
    needed "context" (isRecordOf [needed "diagnostics" (isListOf isDiagnostic),
      allowed "only" (isListOf isText), allowed "triggerKind" isSigned])])),
  ("codeAction/resolve", isCodeAction), ("textDocument/documentColor", document),
  ("textDocument/colorPresentation", isObjectOf (documentFields ++ reportFields ++ [range,
    needed "color" (isRecordOf [needed "red" isNumber, needed "green" isNumber,
      needed "blue" isNumber, needed "alpha" isNumber])])),
  ("textDocument/formatting", isObjectOf (documentFields ++ progressFields ++ [formatting])),
  ("textDocument/rangeFormatting",
    isObjectOf (documentFields ++ progressFields ++ [range, formatting])),
  ("textDocument/onTypeFormatting",
    isObjectOf (placeFields ++ [needed "ch" isText, formatting])),
  ("textDocument/rename", isObjectOf (placeFields ++ progressFields ++ [needed "newName" isText])),
  ("textDocument/prepareRename", isRecordOf placeFields),
  ("textDocument/linkedEditingRange", isObjectOf (placeFields ++ progressFields)),
  ("workspace/symbol", isObjectOf (reportFields ++ [needed "query" isText])),
  ("workspaceSymbol/resolve", isRecordOf [needed "name" isText, needed "kind" isSigned,
    allowed "tags" (isListOf isSigned), allowed "containerName" isText,
    needed "location" (fun l => isLocation l || isDocument l), allowed "data" isAny]),
  ("workspace/willCreateFiles", isFileList [needed "uri" isText]),
  ("workspace/willRenameFiles", isFileList [needed "oldUri" isText, needed "newUri" isText]),
  ("workspace/willDeleteFiles", isFileList [needed "uri" isText]),
  ("workspace/executeCommand", fun j =>
    isObjectOf (progressFields ++ [needed "command" isText]) j &&
      ((j.field? "arguments").map (isListOf isAny)).getD true)]

end Shorthand
