/-
  DocNav.Protocol.Params
  ──────────────────────
  The parameters of the methods that the server handles.
-/
import DocNav.Protocol.Ability

namespace DocNav.Protocol

/-! ## §1. Starting a session. -/

/-- Who the editor is. -/
structure ClientInfo where
  name : String
  version : Option String
  deriving Repr, DecidableEq

/-- What an editor says when it starts a session. -/
structure Hello where
  client : Option ClientInfo
  /-- The folders of the workspace, if the editor knows folders. -/
  folders : Option (List Uri)
  /-- The root of the workspace, as older editors give it. -/
  root : Option Uri
  deriving Repr, DecidableEq

/-- Who the editor is. -/
def clientInfo : Decoder ClientInfo := fun source j => do
  let fs ← record "ClientInfo" [required "name" string, optional "version" string] source j
  return { name := ← fs.get "name" string, version := ← fs.get? "version" string }

/-- A folder of the workspace. -/
def folder : Decoder Uri := fun source j => do
  let fs ← record "WorkspaceFolder" [required "uri" address, required "name" string] source j
  fs.get "uri" address

/-- What an editor says when it starts a session. -/
def hello : Decoder Hello := fun source j => do
  let fs ← record "InitializeParams" [
    optional "processId" word,
    optional "rootPath" string,
    defaulted "rootUri" (nullable address),
    optional "initializationOptions" anything,
    required "capabilities" Ability.all,
    defaulted "trace" (nullable (oneOf ["off", "messages", "verbose"])),
    optional "workspaceFolders" (list folder),
    optional "clientInfo" clientInfo,
    optional "locale" string] source j
  return {
    client := ← fs.get? "clientInfo" clientInfo
    folders := ← fs.get? "workspaceFolders" (list folder)
    root := ← fs.get? "rootUri" address }

/-- The root of the workspace as a path: that of the first folder, or of
the root that older editors give. -/
def Hello.rootPath? (h : Hello) : Option String :=
  (h.folders.bind (·.head?) |>.bind Uri.filePath?).or (h.root.bind Uri.filePath?)

/-! ## §2. Documents. -/

/-- A document that has been opened. -/
structure Opened where
  uri : Uri
  version : Int32
  text : String
  deriving Repr, DecidableEq

/-- A document that has been edited. -/
structure Changed where
  uri : Uri
  version : Int32
  edits : List Edit
  deriving Repr, DecidableEq

/-- The address of a document. -/
def document : Decoder Uri := fun source j => do
  let fs ← record "TextDocumentIdentifier" [required "uri" address] source j
  fs.get "uri" address

/-- The text of a document that is opened. -/
def documentItem : Decoder Opened := fun source j => do
  let fs ← record "TextDocumentItem"
    [required "uri" address, required "languageId" string, required "version" signed,
     required "text" string] source j
  return { uri := ← fs.get "uri" address
           version := ← fs.get "version" signed
           text := ← fs.get "text" string }

/-- The address and the new version of a document. -/
def documentVersion : Decoder (Uri × Int32) := fun source j => do
  let fs ← record "VersionedTextDocumentIdentifier"
    [required "uri" address, required "version" signed] source j
  return (← fs.get "uri" address, ← fs.get "version" signed)

/-- A document has been opened. -/
def opened : Decoder Opened := fun source j => do
  let fs ← record "DidOpenTextDocumentParams" [required "textDocument" documentItem] source j
  fs.get "textDocument" documentItem

/-- A document has been edited. -/
def changed : Decoder Changed := fun source j => do
  let fs ← record "DidChangeTextDocumentParams"
    [required "textDocument" documentVersion, required "contentChanges" (list edit)] source j
  let (uri, version) ← fs.get "textDocument" documentVersion
  return { uri, version, edits := ← fs.get "contentChanges" (list edit) }

/-- A document has been closed. -/
def closed : Decoder Uri := fun source j => do
  let fs ← record "DidCloseTextDocumentParams" [required "textDocument" document] source j
  fs.get "textDocument" document

/-- The session has been started: nothing more is said. -/
def started : Rule :=
  shape "InitializedParams" []

/-! ## §3. Places. -/

/-- A place in a document. -/
structure Place where
  uri : Uri
  position : Position
  deriving Repr, DecidableEq

/-- The fields of a place. -/
def placeFields : List Field :=
  [required "textDocument" document, required "position" position]

/-- The field that names the work on a request. -/
def workFields : List Field :=
  [optional "workDoneToken" token]

/-- The field that names partial results of a request. -/
def partialFields : List Field :=
  [optional "partialResultToken" token]

/-- The place that the fields of a record spell. -/
def Fields.place (fs : Fields) : Except DecodeError Place := do
  return { uri := ← fs.get "textDocument" document
           position := ← fs.get "position" position }

/-- A place whose definition is wanted. -/
def definitionPlace : Decoder Place := fun source j => do
  let fs ← spread "GotoDefinitionParams" [] [placeFields, workFields, partialFields] source j
  fs.place

/-- What is wanted of references. -/
def referenceContext : Rule :=
  shape "ReferenceContext" [required "includeDeclaration" boolean]

/-- A place whose references are wanted. -/
def referencePlace : Decoder Place := fun source j => do
  let fs ← spread "ReferenceParams" [required "context" referenceContext]
    [placeFields, workFields, partialFields] source j
  fs.place

end DocNav.Protocol
