/-
  DocNav.Protocol.Feature
  ───────────────────────
  The requests of the protocol that this server does nothing for.

  They are known all the same: their parameters are looked at before they
  are refused.
-/
import DocNav.Protocol.Params

namespace DocNav.Protocol

/-- A request that the server does nothing for. -/
inductive Feature where
  | willSaveWaitUntil
  | declaration | typeDefinition | implementation
  | prepareCallHierarchy | incomingCalls | outgoingCalls
  | prepareTypeHierarchy | supertypes | subtypes
  | documentHighlight | documentLink | documentLinkResolve | hover
  | codeLens | codeLensResolve | foldingRange | selectionRange | documentSymbol
  | semanticTokens | semanticTokensDelta | semanticTokensRange
  | inlineValue | inlayHint | inlayHintResolve | moniker
  | completion | completionResolve | diagnostic | workspaceDiagnostic
  | signatureHelp | codeAction | codeActionResolve
  | documentColor | colorPresentation
  | formatting | rangeFormatting | onTypeFormatting
  | rename | prepareRename | linkedEditingRange
  | workspaceSymbol | workspaceSymbolResolve
  | willCreateFiles | willRenameFiles | willDeleteFiles | executeCommand
  deriving Repr, DecidableEq

namespace Feature

/-! ## §1. Names. -/

/-- The features by the names of their methods. -/
def byMethod : List (String × Feature) := [
  ("textDocument/willSaveWaitUntil", .willSaveWaitUntil),
  ("textDocument/declaration", .declaration),
  ("textDocument/typeDefinition", .typeDefinition),
  ("textDocument/implementation", .implementation),
  ("textDocument/prepareCallHierarchy", .prepareCallHierarchy),
  ("callHierarchy/incomingCalls", .incomingCalls),
  ("callHierarchy/outgoingCalls", .outgoingCalls),
  ("textDocument/prepareTypeHierarchy", .prepareTypeHierarchy),
  ("typeHierarchy/supertypes", .supertypes),
  ("typeHierarchy/subtypes", .subtypes),
  ("textDocument/documentHighlight", .documentHighlight),
  ("textDocument/documentLink", .documentLink),
  ("documentLink/resolve", .documentLinkResolve),
  ("textDocument/hover", .hover),
  ("textDocument/codeLens", .codeLens),
  ("codeLens/resolve", .codeLensResolve),
  ("textDocument/foldingRange", .foldingRange),
  ("textDocument/selectionRange", .selectionRange),
  ("textDocument/documentSymbol", .documentSymbol),
  ("textDocument/semanticTokens/full", .semanticTokens),
  ("textDocument/semanticTokens/full/delta", .semanticTokensDelta),
  ("textDocument/semanticTokens/range", .semanticTokensRange),
  ("textDocument/inlineValue", .inlineValue),
  ("textDocument/inlayHint", .inlayHint),
  ("inlayHint/resolve", .inlayHintResolve),
  ("textDocument/moniker", .moniker),
  ("textDocument/completion", .completion),
  ("completionItem/resolve", .completionResolve),
  ("textDocument/diagnostic", .diagnostic),
  ("workspace/diagnostic", .workspaceDiagnostic),
  ("textDocument/signatureHelp", .signatureHelp),
  ("textDocument/codeAction", .codeAction),
  ("codeAction/resolve", .codeActionResolve),
  ("textDocument/documentColor", .documentColor),
  ("textDocument/colorPresentation", .colorPresentation),
  ("textDocument/formatting", .formatting),
  ("textDocument/rangeFormatting", .rangeFormatting),
  ("textDocument/onTypeFormatting", .onTypeFormatting),
  ("textDocument/rename", .rename),
  ("textDocument/prepareRename", .prepareRename),
  ("textDocument/linkedEditingRange", .linkedEditingRange),
  ("workspace/symbol", .workspaceSymbol),
  ("workspaceSymbol/resolve", .workspaceSymbolResolve),
  ("workspace/willCreateFiles", .willCreateFiles),
  ("workspace/willRenameFiles", .willRenameFiles),
  ("workspace/willDeleteFiles", .willDeleteFiles),
  ("workspace/executeCommand", .executeCommand)]

end Feature

namespace Shape

/-! ## §2. Parts of the parameters. -/

/-- A change of a part of a document. -/
def textEdit : Rule :=
  shape "TextEdit" [required "range" range, required "newText" string]

/-- Something the editor can run. -/
def command : Rule :=
  shape "Command"
    [required "title" string, required "command" string, optional "arguments" (list anything)]

/-- A range in a document. -/
def location : Rule :=
  shape "Location" [required "uri" address, required "range" range]

/-- A text with markup. -/
def markup : Rule :=
  shape "MarkupContent" [required "kind" Ability.markupKind, required "value" string]

/-- A text with or without markup, under the name of its type. -/
def documentation (type : String) : Rule :=
  either type [string.rule, markup]

/-- A diagnostic. -/
def diagnostic : Rule :=
  shape "Diagnostic" [
    required "range" range,
    optional "severity" signed,
    optional "code" token,
    optional "codeDescription" (shape "CodeDescription" [required "href" address]),
    optional "source" string,
    required "message" string,
    optional "relatedInformation" (list (shape "DiagnosticRelatedInformation"
      [required "location" location, required "message" string])),
    optional "tags" (list signed),
    optional "data" anything]

/-- A symbol in a hierarchy of calls or types, with the rule for its tags. -/
def hierarchyItem (record : String) (tags : Rule) : Rule :=
  shape record [
    required "name" string,
    required "kind" signed,
    optional "tags" tags,
    optional "detail" string,
    required "uri" address,
    required "range" range,
    required "selectionRange" range,
    optional "data" anything]

/-! ## §3. Changes of many files. -/

/-- A document that may have a version. -/
def versionedDocument : Rule :=
  shape "OptionalVersionedTextDocumentIdentifier"
    [required "uri" address, optional "version" signed]

/-- A change of a document. -/
def documentEdit : Rule :=
  shape "TextDocumentEdit" [
    required "textDocument" versionedDocument,
    required "edits" (list (either "OneOf" [
      textEdit,
      (spread "AnnotatedTextEdit" [required "annotationId" string]
        [[required "range" range, required "newText" string]]).rule]))]

/-- A file is created, renamed or deleted; the kind says which. -/
def fileOperation : Rule := fun source j => do
  let option (first second : String) (more : List Field) : List Field :=
    [optional first boolean, optional second boolean] ++ more
  let note := optional "annotationId" string
  let fields ← match j.get? "kind" with
    | some (.str "create") => pure [
        required "uri" address,
        optional "options" (shape "CreateFileOptions" (option "overwrite" "ignoreIfExists" [])),
        note]
    | some (.str "rename") => pure [
        required "oldUri" address, required "newUri" address,
        optional "options" (shape "RenameFileOptions" (option "overwrite" "ignoreIfExists" [])),
        note]
    | some (.str "delete") => pure [
        required "uri" address,
        optional "options"
          (shape "DeleteFileOptions" (option "recursive" "ignoreIfNotExists" [note]))]
    | _ => .error (.missingField "kind")
  shape "ResourceOp" fields source j

/-- Changes under the addresses of the documents they are for. -/
def changesByAddress : Rule
  | source, .obj pairs => pairs.forM fun (uri, edits) => do
      address.rule source (.str uri)
      (list textEdit).rule source edits
  | _, j => .error (.invalidType j "map")

/-- Changes of many files at once. -/
def workspaceEdit : Rule :=
  shape "WorkspaceEdit" [
    defaulted "changes" (nullable changesByAddress),
    optional "documentChanges" (either "DocumentChanges" [
      (list documentEdit).rule,
      (list (either "DocumentChangeOperation" [fileOperation, documentEdit])).rule]),
    optional "changeAnnotations" (dictionary (shape "ChangeAnnotation"
      [required "label" string, optional "needsConfirmation" boolean,
       optional "description" string]))]

/-! ## §4. Records of the parameters. -/

/-- A place, with the work on the request named. -/
def place (record : String) : Rule :=
  (spread record [] [placeFields, workFields]).rule

/-- A place, with the work and its partial results named. -/
def placeInParts (record : String) : Rule :=
  (spread record [] [placeFields, workFields, partialFields]).rule

/-- Fields of its own, with the work and its partial results named. -/
def inParts (record : String) (own : List Field) : Rule :=
  (spread record own [workFields, partialFields]).rule

/-- A document and more, with the work and its partial results named. -/
def documentInParts (record : String) (more : List Field) : Rule :=
  inParts record (required "textDocument" document :: more)

/-- How text is to be laid out.  Other properties are a truth value, a
number or a string. -/
def layout : Rule
  | source, .obj pairs => do
      let own := [required "tabSize" word, required "insertSpaces" boolean,
        optional "trimTrailingWhitespace" boolean, optional "insertFinalNewline" boolean,
        optional "trimFinalNewlines" boolean]
      verify own source pairs
      complete own pairs
      pairs.forM fun (name, value) =>
        if own.any (·.name == name) then .ok ()
        else either "FormattingProperty" [boolean.rule, signed.rule, string.rule] .held value
  | _, j => .error (.invalidType j "struct FormattingOptions")

/-- A signature that help was shown for. -/
def signature : Rule :=
  shape "SignatureInformation" [
    required "label" string,
    optional "documentation" (documentation "Documentation"),
    optional "parameters" (list (shape "ParameterInformation" [
      required "label" (either "ParameterLabel"
        [string.rule, shape "LabelOffsets" [required "start" word, required "end" word]]),
      optional "documentation" (documentation "Documentation")])),
    optional "activeParameter" word]

/-- Why help with a signature is wanted. -/
def signatureContext : Rule :=
  shape "SignatureHelpContext" [
    required "triggerKind" signed,
    optional "triggerCharacter" string,
    required "isRetrigger" boolean,
    optional "activeSignatureHelp" (shape "SignatureHelp" [
      required "signatures" (list signature),
      optional "activeSignature" word,
      optional "activeParameter" word])]

/-- An item of a completion. -/
def completionItem : Rule :=
  shape "CompletionItem" [
    required "label" string,
    optional "labelDetails" (shape "CompletionItemLabelDetails"
      [optional "detail" string, optional "description" string]),
    optional "kind" signed,
    optional "detail" string,
    optional "documentation" (documentation "Documentation"),
    optional "deprecated" boolean,
    optional "preselect" boolean,
    optional "sortText" string,
    optional "filterText" string,
    optional "insertText" string,
    optional "insertTextFormat" signed,
    optional "insertTextMode" signed,
    optional "textEdit" (either "CompletionTextEdit" [
      textEdit,
      shape "InsertReplaceEdit"
        [required "newText" string, required "insert" range, required "replace" range]]),
    optional "additionalTextEdits" (list textEdit),
    optional "command" command,
    optional "commitCharacters" (list string),
    optional "data" anything,
    optional "tags" (list signed)]

/-- An action on code. -/
def codeAction : Rule :=
  shape "CodeAction" [
    required "title" string,
    optional "kind" string,
    optional "diagnostics" (list diagnostic),
    optional "edit" workspaceEdit,
    optional "command" command,
    optional "isPreferred" boolean,
    optional "disabled" (shape "CodeActionDisabled" [required "reason" string]),
    optional "data" anything]

/-- A hint between the words of a line. -/
def inlayHint : Rule :=
  shape "InlayHint" [
    required "position" position,
    required "label" (either "InlayHintLabel" [
      string.rule,
      (list (shape "InlayHintLabelPart" [
        required "value" string,
        optional "tooltip" (documentation "InlayHintLabelPartTooltip"),
        optional "location" location,
        optional "command" command])).rule]),
    optional "kind" signed,
    optional "textEdits" (list textEdit),
    optional "tooltip" (documentation "InlayHintTooltip"),
    optional "paddingLeft" boolean,
    optional "paddingRight" boolean,
    optional "data" anything]

/-- A symbol of the workspace. -/
def workspaceSymbol : Rule :=
  shape "WorkspaceSymbol" [
    required "name" string,
    required "kind" signed,
    optional "tags" (list signed),
    optional "containerName" string,
    required "location" (either "OneOf"
      [location, shape "WorkspaceLocation" [required "uri" address]]),
    optional "data" anything]

/-- Files, under the name of the record and with the fields of each. -/
def files (record item : String) (fields : List String) : Rule :=
  shape record [required "files" (list (shape item (fields.map (required · string))))]

end Shape

/-! ## §5. The parameters of each feature. -/

open Shape in
/-- The rule for the parameters of a feature. -/
def Feature.params : Feature → Rule
  | .willSaveWaitUntil =>
      shape "WillSaveTextDocumentParams"
        [required "textDocument" document, required "reason" signed]
  | .declaration | .typeDefinition | .implementation => definitionPlace.rule
  | .prepareCallHierarchy => place "CallHierarchyPrepareParams"
  | .incomingCalls =>
      inParts "CallHierarchyIncomingCallsParams"
        [required "item" (hierarchyItem "CallHierarchyItem" (list signed).rule)]
  | .outgoingCalls =>
      inParts "CallHierarchyOutgoingCallsParams"
        [required "item" (hierarchyItem "CallHierarchyItem" (list signed).rule)]
  | .prepareTypeHierarchy => place "TypeHierarchyPrepareParams"
  | .supertypes =>
      inParts "TypeHierarchySupertypesParams"
        [required "item" (hierarchyItem "TypeHierarchyItem" signed.rule)]
  | .subtypes =>
      inParts "TypeHierarchySubtypesParams"
        [required "item" (hierarchyItem "TypeHierarchyItem" signed.rule)]
  | .documentHighlight => placeInParts "DocumentHighlightParams"
  | .documentLink => documentInParts "DocumentLinkParams" []
  | .documentLinkResolve =>
      shape "DocumentLink" [required "range" range, optional "target" address,
        optional "tooltip" string, optional "data" anything]
  | .hover => place "HoverParams"
  | .codeLens => documentInParts "CodeLensParams" []
  | .codeLensResolve =>
      shape "CodeLens"
        [required "range" range, optional "command" command, optional "data" anything]
  | .foldingRange => documentInParts "FoldingRangeParams" []
  | .selectionRange =>
      documentInParts "SelectionRangeParams" [required "positions" (list position)]
  | .documentSymbol => documentInParts "DocumentSymbolParams" []
  | .semanticTokens => documentInParts "SemanticTokensParams" []
  | .semanticTokensDelta =>
      documentInParts "SemanticTokensDeltaParams" [required "previousResultId" string]
  | .semanticTokensRange => documentInParts "SemanticTokensRangeParams" [required "range" range]
  | .inlineValue =>
      (spread "InlineValueParams" [
        required "textDocument" document, required "range" range,
        required "context" (shape "InlineValueContext"
          [required "frameId" signed, required "stoppedLocation" range])] [workFields]).rule
  | .inlayHint =>
      (spread "InlayHintParams"
        [required "textDocument" document, required "range" range] [workFields]).rule
  | .inlayHintResolve => Shape.inlayHint
  | .moniker => placeInParts "MonikerParams"
  | .completion =>
      (spread "CompletionParams" [optional "context" (shape "CompletionContext"
        [required "triggerKind" signed, optional "triggerCharacter" string])]
        [placeFields, workFields, partialFields]).rule
  | .completionResolve => completionItem
  | .diagnostic =>
      documentInParts "DocumentDiagnosticParams"
        [optional "identifier" string, optional "previousResultId" string]
  | .workspaceDiagnostic =>
      inParts "WorkspaceDiagnosticParams" [
        optional "identifier" string,
        required "previousResultIds" (list (shape "PreviousResultId"
          [required "uri" address, required "value" string]))]
  | .signatureHelp =>
      (spread "SignatureHelpParams" [optional "context" signatureContext]
        [placeFields, workFields]).rule
  | .codeAction =>
      documentInParts "CodeActionParams" [
        required "range" range,
        required "context" (shape "CodeActionContext" [
          required "diagnostics" (list Shape.diagnostic),
          optional "only" (list string),
          optional "triggerKind" signed])]
  | .codeActionResolve => Shape.codeAction
  | .documentColor => documentInParts "DocumentColorParams" []
  | .colorPresentation =>
      documentInParts "ColorPresentationParams" [
        required "color" (shape "Color"
          (["red", "green", "blue", "alpha"].map (required · real))),
        required "range" range]
  | .formatting =>
      (spread "DocumentFormattingParams"
        [required "textDocument" document, required "options" layout] [workFields]).rule
  | .rangeFormatting =>
      (spread "DocumentRangeFormattingParams"
        [required "textDocument" document, required "range" range, required "options" layout]
        [workFields]).rule
  | .onTypeFormatting =>
      (spread "DocumentOnTypeFormattingParams"
        [required "ch" string, required "options" layout] [placeFields]).rule
  | .rename =>
      (spread "RenameParams" [required "newName" string] [placeFields, workFields]).rule
  | .prepareRename => shape "TextDocumentPositionParams" placeFields
  | .linkedEditingRange => place "LinkedEditingRangeParams"
  | .workspaceSymbol => inParts "WorkspaceSymbolParams" [required "query" string]
  | .workspaceSymbolResolve => Shape.workspaceSymbol
  | .willCreateFiles => files "CreateFilesParams" "FileCreate" ["uri"]
  | .willRenameFiles => files "RenameFilesParams" "FileRename" ["oldUri", "newUri"]
  | .willDeleteFiles => files "DeleteFilesParams" "FileDelete" ["uri"]
  | .executeCommand =>
      (spread "ExecuteCommandParams"
        [required "command" string, defaulted "arguments" (list anything)] [workFields]).rule

end DocNav.Protocol
