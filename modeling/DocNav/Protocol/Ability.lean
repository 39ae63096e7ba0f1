/-
  DocNav.Protocol.Ability
  ───────────────────────
  What an editor says it can do.

  The server acts on none of it, but what does not fit is refused.
-/
import DocNav.Protocol.Decode

namespace DocNav.Protocol.Ability

/-! ## §1. Parts. -/

/-- A truth value that may be left out. -/
def flag (name : String) : Field :=
  optional name boolean

/-- An ability that can be registered later. -/
def registered : Rule :=
  shape "DynamicRegistrationClientCapabilities" [flag "dynamicRegistration"]

/-- The workspace can be told to ask again. -/
def refreshed (record : String) : Rule :=
  shape record [flag "refreshSupport"]

/-- The properties that can be filled in later. -/
def resolved (record : String) : Rule :=
  shape record [required "properties" (list string)]

/-- The forms of a text with markup. -/
def markupKind : Rule :=
  oneOf ["plaintext", "markdown"]

/-- The kinds of symbols that the editor knows. -/
def symbolKinds : Rule :=
  shape "SymbolKindCapability" [optional "valueSet" (list signed)]

/-- The tags that the editor knows; older editors only say whether they
know any. -/
def tags : Rule
  | _, .bool _ => .ok ()
  | _, j => shape "TagSupport" [required "valueSet" (list signed)] .direct j

/-- The field of the tags. -/
def tagField : Field :=
  defaulted "tagSupport" (nullable tags)

/-! ## §2. The workspace. -/

/-- Changes of many files at once. -/
def workspaceEdit : Rule :=
  shape "WorkspaceEditClientCapabilities" [
    flag "documentChanges",
    optional "resourceOperations" (list (oneOf ["create", "rename", "delete"])),
    optional "failureHandling"
      (oneOf ["abort", "transactional", "textOnlyTransactional", "undo"]),
    flag "normalizesLineEndings",
    optional "changeAnnotationSupport"
      (shape "ChangeAnnotationWorkspaceEditClientCapabilities" [flag "groupsOnLabel"])]

/-- The workspace. -/
def workspace : Rule :=
  shape "WorkspaceClientCapabilities" [
    flag "applyEdit",
    optional "workspaceEdit" workspaceEdit,
    optional "didChangeConfiguration" registered,
    optional "didChangeWatchedFiles"
      (shape "DidChangeWatchedFilesClientCapabilities"
        [flag "dynamicRegistration", flag "relativePatternSupport"]),
    optional "symbol"
      (shape "WorkspaceSymbolClientCapabilities" [
        flag "dynamicRegistration", optional "symbolKind" symbolKinds, tagField,
        optional "resolveSupport" (resolved "WorkspaceSymbolResolveSupportCapability")]),
    optional "executeCommand" registered,
    flag "workspaceFolders",
    flag "configuration",
    optional "semanticTokens" (refreshed "SemanticTokensWorkspaceClientCapabilities"),
    optional "codeLens" (refreshed "CodeLensWorkspaceClientCapabilities"),
    optional "fileOperations"
      (shape "WorkspaceFileOperationsClientCapabilities"
        (["dynamicRegistration", "didCreate", "willCreate", "didRename", "willRename",
          "didDelete", "willDelete"].map flag)),
    optional "inlineValue" (refreshed "InlineValueWorkspaceClientCapabilities"),
    optional "inlayHint" (refreshed "InlayHintWorkspaceClientCapabilities"),
    optional "diagnostic" (refreshed "DiagnosticWorkspaceClientCapabilities")]

/-! ## §3. Documents. -/

/-- Completion. -/
def completion : Rule :=
  shape "CompletionClientCapabilities" [
    flag "dynamicRegistration",
    optional "completionItem"
      (shape "CompletionItemCapability" [
        flag "snippetSupport",
        flag "commitCharactersSupport",
        optional "documentationFormat" (list markupKind),
        flag "deprecatedSupport",
        flag "preselectSupport",
        tagField,
        flag "insertReplaceSupport",
        optional "resolveSupport" (resolved "CompletionItemCapabilityResolveSupport"),
        optional "insertTextModeSupport"
          (shape "InsertTextModeSupport" [required "valueSet" (list signed)]),
        flag "labelDetailsSupport"]),
    optional "completionItemKind"
      (shape "CompletionItemKindCapability" [optional "valueSet" (list signed)]),
    flag "contextSupport",
    optional "insertTextMode" signed,
    optional "completionList"
      (shape "CompletionListCapability" [optional "itemDefaults" (list string)])]

/-- Help with signatures. -/
def signatureHelp : Rule :=
  shape "SignatureHelpClientCapabilities" [
    flag "dynamicRegistration",
    optional "signatureInformation"
      (shape "SignatureInformationSettings" [
        optional "documentationFormat" (list markupKind),
        optional "parameterInformation"
          (shape "ParameterInformationSettings" [flag "labelOffsetSupport"]),
        flag "activeParameterSupport"]),
    flag "contextSupport"]

/-- Going to another place. -/
def goto : Rule :=
  shape "GotoCapability" [flag "dynamicRegistration", flag "linkSupport"]

/-- Actions on code. -/
def codeAction : Rule :=
  shape "CodeActionClientCapabilities" [
    flag "dynamicRegistration",
    optional "codeActionLiteralSupport"
      (shape "CodeActionLiteralSupport" [
        required "codeActionKind"
          (shape "CodeActionKindLiteralSupport" [required "valueSet" (list string)])]),
    flag "isPreferredSupport",
    flag "disabledSupport",
    flag "dataSupport",
    optional "resolveSupport" (resolved "CodeActionCapabilityResolveSupport"),
    flag "honorsChangeAnnotations"]

/-- Folding. -/
def folding : Rule :=
  shape "FoldingRangeClientCapabilities" [
    flag "dynamicRegistration",
    optional "rangeLimit" word,
    flag "lineFoldingOnly",
    optional "foldingRangeKind"
      (shape "FoldingRangeKindCapability"
        [optional "valueSet" (list (oneOf ["comment", "imports", "region"]))]),
    optional "foldingRange" (shape "FoldingRangeCapability" [flag "collapsedText"])]

/-- Tokens with a meaning. -/
def semanticTokens : Rule :=
  shape "SemanticTokensClientCapabilities" [
    flag "dynamicRegistration",
    required "requests"
      (shape "SemanticTokensClientCapabilitiesRequests" [
        flag "range",
        optional "full" (either "SemanticTokensFullOptions"
          [boolean.rule, shape "SemanticTokensFullOptions" [flag "delta"]])]),
    required "tokenTypes" (list string),
    required "tokenModifiers" (list string),
    required "formats" (list string),
    flag "overlappingTokenSupport",
    flag "multilineTokenSupport",
    flag "serverCancelSupport",
    flag "augmentsSyntaxTokens"]

/-- Documents. -/
def textDocument : Rule :=
  shape "TextDocumentClientCapabilities" [
    optional "synchronization"
      (shape "TextDocumentSyncClientCapabilities"
        (["dynamicRegistration", "willSave", "willSaveWaitUntil", "didSave"].map flag)),
    optional "completion" completion,
    optional "hover"
      (shape "HoverClientCapabilities"
        [flag "dynamicRegistration", optional "contentFormat" (list markupKind)]),
    optional "signatureHelp" signatureHelp,
    optional "references" registered,
    optional "documentHighlight" registered,
    optional "documentSymbol"
      (shape "DocumentSymbolClientCapabilities" [
        flag "dynamicRegistration", optional "symbolKind" symbolKinds,
        flag "hierarchicalDocumentSymbolSupport", tagField]),
    optional "formatting" registered,
    optional "rangeFormatting" registered,
    optional "onTypeFormatting" registered,
    optional "declaration" goto,
    optional "definition" goto,
    optional "typeDefinition" goto,
    optional "implementation" goto,
    optional "codeAction" codeAction,
    optional "codeLens" registered,
    optional "documentLink"
      (shape "DocumentLinkClientCapabilities"
        [flag "dynamicRegistration", flag "tooltipSupport"]),
    optional "colorProvider" registered,
    optional "rename"
      (shape "RenameClientCapabilities" [
        flag "dynamicRegistration", flag "prepareSupport",
        optional "prepareSupportDefaultBehavior" signed, flag "honorsChangeAnnotations"]),
    optional "publishDiagnostics"
      (shape "PublishDiagnosticsClientCapabilities" [
        flag "relatedInformation", tagField, flag "versionSupport",
        flag "codeDescriptionSupport", flag "dataSupport"]),
    optional "foldingRange" folding,
    optional "selectionRange"
      (shape "SelectionRangeClientCapabilities" [flag "dynamicRegistration"]),
    optional "linkedEditingRange" registered,
    optional "callHierarchy" registered,
    optional "semanticTokens" semanticTokens,
    optional "moniker" registered,
    optional "typeHierarchy" registered,
    optional "inlineValue" registered,
    optional "inlayHint"
      (shape "InlayHintClientCapabilities" [
        flag "dynamicRegistration",
        optional "resolveSupport" (resolved "InlayHintResolveClientCapabilities")]),
    optional "diagnostic"
      (shape "DiagnosticClientCapabilities"
        [flag "dynamicRegistration", flag "relatedDocumentSupport"])]

/-! ## §4. Everything. -/

/-- Windows. -/
def window : Rule :=
  shape "WindowClientCapabilities" [
    flag "workDoneProgress",
    optional "showMessage"
      (shape "ShowMessageRequestClientCapabilities" [
        optional "messageActionItem"
          (shape "MessageActionItemCapabilities" [flag "additionalPropertiesSupport"])]),
    optional "showDocument"
      (shape "ShowDocumentClientCapabilities" [required "support" boolean])]

/-- What concerns no feature in particular. -/
def general : Rule :=
  shape "GeneralClientCapabilities" [
    optional "regularExpressions"
      (shape "RegularExpressionsClientCapabilities"
        [required "engine" string, optional "version" string]),
    optional "markdown"
      (shape "MarkdownClientCapabilities"
        [required "parser" string, optional "version" string,
         optional "allowedTags" (list string)]),
    optional "staleRequestSupport"
      (shape "StaleRequestSupportClientCapabilities"
        [required "cancel" boolean, required "retryOnContentModified" (list string)]),
    optional "positionEncodings" (list string)]

/-- What the editor can do. -/
def all : Rule :=
  shape "ClientCapabilities" [
    optional "workspace" workspace,
    optional "textDocument" textDocument,
    optional "window" window,
    optional "general" general,
    optional "experimental" anything]

end DocNav.Protocol.Ability
