import Shorthand.Server.Params

/-!
# `Shorthand.Server.Capabilities`: what a client can do

A client lists its abilities in the first message. The server uses none of them, but the
list has to be well formed. Every ability may be left out.
-/

set_option autoImplicit false

namespace Shorthand

namespace Json

/-! ### Parts -/

/-- Optional truth values of the given names. -/
def switches (names : List String) : List Field :=
  names.map fun name => allowed name isBool

/-- The switch that most abilities have, for registering later. -/
def registration : Field := allowed "dynamicRegistration" isBool

/-- An ability with no more than the switch for registering later. -/
def isRegistration : Json → Bool :=
  isRecordOf [registration]

/-- An ability with a switch for asking again. -/
def isRefresh : Json → Bool :=
  isRecordOf (switches ["refreshSupport"])

/-- One of the given words. -/
def isWord (words : List String) (j : Json) : Bool :=
  (j.text?.map (Text.oneOf words)).getD false

/-- Formats of documentation. -/
def isFormats : Json → Bool :=
  isListOf (isWord ["plaintext", "markdown"])

/-- Properties that can be asked for later. -/
def isResolve : Json → Bool :=
  isRecordOf [needed "properties" (isListOf isText)]

/-- The known values of an enumeration, which need not be given. -/
def isValueSet : Json → Bool :=
  isRecordOf [allowed "valueSet" (isListOf isSigned)]

/-- The known tags. A truth value may stand in their place. -/
def isTags (j : Json) : Bool :=
  j.isBool || isRecordOf [needed "valueSet" (isListOf isSigned)] j

/-! ### Abilities by subject -/

/-- Abilities for the folders of a client. -/
def isWorkspaceAbilities : Json → Bool :=
  isRecordOf [allowed "applyEdit" isBool,
    allowed "workspaceEdit" (isRecordOf [allowed "documentChanges" isBool,
      allowed "resourceOperations" (isListOf (isWord ["create", "rename", "delete"])),
      allowed "failureHandling"
        (isWord ["abort", "transactional", "textOnlyTransactional", "undo"]),
      allowed "normalizesLineEndings" isBool,
      allowed "changeAnnotationSupport" (isRecordOf (switches ["groupsOnLabel"]))]),
    allowed "didChangeConfiguration" isRegistration,
    allowed "didChangeWatchedFiles"
      (isRecordOf (switches ["dynamicRegistration", "relativePatternSupport"])),
    allowed "symbol" (isRecordOf [registration, allowed "symbolKind" isValueSet,
      allowed "tagSupport" isTags, allowed "resolveSupport" isResolve]),
    allowed "executeCommand" isRegistration, allowed "workspaceFolders" isBool,
    allowed "configuration" isBool, allowed "semanticTokens" isRefresh,
    allowed "codeLens" isRefresh,
    allowed "fileOperations" (isRecordOf (switches ["dynamicRegistration", "didCreate",
      "willCreate", "didRename", "willRename", "didDelete", "willDelete"])),
    allowed "inlineValue" isRefresh, allowed "inlayHint" isRefresh, allowed "diagnostic" isRefresh]

/-- Abilities for completions. -/
def isCompletionAbilities : Json → Bool :=
  isRecordOf [registration,
    allowed "completionItem" (isRecordOf [allowed "snippetSupport" isBool,
      allowed "commitCharactersSupport" isBool, allowed "documentationFormat" isFormats,
      allowed "deprecatedSupport" isBool, allowed "preselectSupport" isBool,
      allowed "tagSupport" isTags, allowed "insertReplaceSupport" isBool,
      allowed "resolveSupport" isResolve,
      allowed "insertTextModeSupport" (isRecordOf [needed "valueSet" (isListOf isSigned)]),
      allowed "labelDetailsSupport" isBool]),
    allowed "completionItemKind" isValueSet, allowed "contextSupport" isBool,
    allowed "insertTextMode" isSigned,
    allowed "completionList" (isRecordOf [allowed "itemDefaults" (isListOf isText)])]

/-- Abilities for help on signatures. -/
def isSignatureAbilities : Json → Bool :=
  isRecordOf [registration,
    allowed "signatureInformation" (isRecordOf [allowed "documentationFormat" isFormats,
      allowed "parameterInformation" (isRecordOf (switches ["labelOffsetSupport"])),
      allowed "activeParameterSupport" isBool]),
    allowed "contextSupport" isBool]

/-- Abilities for actions on code. -/
def isActionAbilities : Json → Bool :=
  isRecordOf [registration,
    allowed "codeActionLiteralSupport" (isRecordOf [needed "codeActionKind"
      (isRecordOf [needed "valueSet" (isListOf isText)])]),
    allowed "isPreferredSupport" isBool, allowed "disabledSupport" isBool,
    allowed "dataSupport" isBool, allowed "resolveSupport" isResolve,
    allowed "honorsChangeAnnotations" isBool]

/-- Abilities for folding. -/
def isFoldingAbilities : Json → Bool :=
  isRecordOf [registration, allowed "rangeLimit" (·.unsigned32?.isSome),
    allowed "lineFoldingOnly" isBool,
    allowed "foldingRangeKind" (isRecordOf
      [allowed "valueSet" (isListOf (isWord ["comment", "imports", "region"]))]),
    allowed "foldingRange" (isRecordOf (switches ["collapsedText"]))]

/-- Abilities for colouring by meaning. -/
def isTokenAbilities : Json → Bool :=
  isRecordOf ([registration,
    needed "requests" (isRecordOf [allowed "range" isBool,
      allowed "full" (fun full => full.isBool || isRecordOf (switches ["delta"]) full)]),
    needed "tokenTypes" (isListOf isText), needed "tokenModifiers" (isListOf isText),
    needed "formats" (isListOf (isWord ["relative"]))] ++
    switches ["overlappingTokenSupport", "multilineTokenSupport", "serverCancelSupport",
      "augmentsSyntaxTokens"])

/-- Abilities for documents. -/
def isDocumentAbilities : Json → Bool :=
  let definition := isRecordOf (switches ["dynamicRegistration", "linkSupport"])
  isRecordOf [
    allowed "synchronization" (isRecordOf
      (switches ["dynamicRegistration", "willSave", "willSaveWaitUntil", "didSave"])),
    allowed "completion" isCompletionAbilities,
    allowed "hover" (isRecordOf [registration, allowed "contentFormat" isFormats]),
    allowed "signatureHelp" isSignatureAbilities, allowed "references" isRegistration,
    allowed "documentHighlight" isRegistration,
    allowed "documentSymbol" (isRecordOf [registration, allowed "symbolKind" isValueSet,
      allowed "hierarchicalDocumentSymbolSupport" isBool, allowed "tagSupport" isTags]),
    allowed "formatting" isRegistration, allowed "rangeFormatting" isRegistration,
    allowed "onTypeFormatting" isRegistration, allowed "declaration" definition,
    allowed "definition" definition, allowed "typeDefinition" definition,
    allowed "implementation" definition, allowed "codeAction" isActionAbilities,
    allowed "codeLens" isRegistration,
    allowed "documentLink" (isRecordOf (switches ["dynamicRegistration", "tooltipSupport"])),
    allowed "colorProvider" isRegistration,
    allowed "rename" (isRecordOf [registration, allowed "prepareSupport" isBool,
      allowed "prepareSupportDefaultBehavior" isSigned, allowed "honorsChangeAnnotations" isBool]),
    allowed "publishDiagnostics" (isRecordOf [allowed "relatedInformation" isBool,
      allowed "tagSupport" isTags, allowed "versionSupport" isBool,
      allowed "codeDescriptionSupport" isBool, allowed "dataSupport" isBool]),
    allowed "foldingRange" isFoldingAbilities, allowed "selectionRange" isRegistration,
    allowed "linkedEditingRange" isRegistration, allowed "callHierarchy" isRegistration,
    allowed "semanticTokens" isTokenAbilities, allowed "moniker" isRegistration,
    allowed "typeHierarchy" isRegistration, allowed "inlineValue" isRegistration,
    allowed "inlayHint" (isRecordOf [registration, allowed "resolveSupport" isResolve]),
    allowed "diagnostic"
      (isRecordOf (switches ["dynamicRegistration", "relatedDocumentSupport"]))]

/-- Abilities for notebooks. -/
def isNotebookAbilities : Json → Bool :=
  isRecordOf [needed "synchronization"
    (isRecordOf (switches ["dynamicRegistration", "executionSummaryReport"]))]

/-- Abilities of the window. -/
def isWindowAbilities : Json → Bool :=
  isRecordOf [allowed "workDoneProgress" isBool,
    allowed "showMessage" (isRecordOf [allowed "messageActionItem"
      (isRecordOf (switches ["additionalPropertiesSupport"]))]),
    allowed "showDocument" (isRecordOf [needed "support" isBool])]

/-- Abilities of no subject. -/
def isGeneralAbilities : Json → Bool :=
  isRecordOf [
    allowed "regularExpressions" (isRecordOf [needed "engine" isText, allowed "version" isText]),
    allowed "markdown" (isRecordOf [needed "parser" isText, allowed "version" isText,
      allowed "allowedTags" (isListOf isText)]),
    allowed "staleRequestSupport" (isRecordOf [needed "cancel" isBool,
      needed "retryOnContentModified" (isListOf isText)]),
    allowed "positionEncodings" (isListOf isText)]

/-- The abilities of a client. -/
def isCapabilities : Json → Bool :=
  isRecordOf [allowed "workspace" isWorkspaceAbilities,
    allowed "textDocument" isDocumentAbilities, allowed "notebookDocument" isNotebookAbilities,
    allowed "window" isWindowAbilities, allowed "general" isGeneralAbilities,
    allowed "experimental" isAny]

end Json

end Shorthand
