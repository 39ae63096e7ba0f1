/-
  DocNav.Session.Basic
  ────────────────────
  A session with an editor, from the first message to the last.

  A session is started by one request, serves until it is shut down, and
  ends when the editor leaves.  Methods that nobody knows are refused at
  any time; the others only while the session serves, except that starting
  comes before it and leaving may come at any time.  A request that is
  sent as a notification is passed over, and a notification that is sent
  as a request is refused.
-/
import DocNav.Session.Service
import DocNav.Protocol.Method
import DocNav.Json.Writer

namespace DocNav

open Protocol

/-- How far a session has come. -/
inductive Phase where
  /-- Not started. -/
  | fresh
  /-- Started. -/
  | serving
  /-- Shut down. -/
  | shutDown
  /-- Left. -/
  | exited
  deriving Repr, DecidableEq

/-- A session with an editor. -/
structure Session where
  phase : Phase
  workspace : Workspace

/-- What comes of a message. -/
structure Reply where
  response : Option Response
  told : Told

/-- The editor has left: no message is taken any more. -/
structure Exited where
  deriving Repr, DecidableEq

/-! ## §1. What the server says of itself. -/

/-- What the server can do. -/
def capabilities : Json :=
  .obj [("definitionProvider", .bool true), ("referencesProvider", .bool true),
    ("textDocumentSync", .obj [("change", .int 2), ("openClose", .bool true)])]

/-- The name of the server. -/
def serverName : String := "openapi-lsp"

/-- The version of the server. -/
def serverVersion : String := "0.1.0"

/-- The result of starting a session. -/
def welcome : Json :=
  .obj [("capabilities", capabilities),
    ("serverInfo", .obj [("name", .str serverName), ("version", .str serverVersion)])]

/-- The log of starting a session. -/
def Protocol.Hello.events (h : Hello) : List Event :=
  (h.client.map fun c => Event.connected c.name (c.version.getD "unknown")).toList ++
    [match h.rootPath? with
      | some path => .root path
      | none => .noRoot]

/-! ## §2. Replies. -/

namespace Reply

/-- Nothing comes of the message. -/
def nothing : Reply :=
  ⟨none, .log []⟩

/-- A result, for a request. -/
def result (id : Option Json) (value : Json) (events : List Event) : Reply :=
  ⟨id.map (⟨·, .ok value⟩), .log events⟩

/-- A fault, for a request. -/
def fault (id : Option Json) (f : Fault) (events : List Event) : Reply :=
  ⟨id.map (⟨·, .error f⟩), .log events⟩

end Reply

/-- Read the parameters of a method that needs some. -/
def decodeParams {α : Type} (decode : Decoder α) : Option Json → Except Fault α
  | none => .error (.invalidParams "Missing params field")
  | some j =>
      match decode .direct j with
      | .ok a => .ok a
      | .error e => .error (.invalidParams e.message)

/-- Look at the parameters of a method that takes none. -/
def noParams : Option Json → Except Fault Unit
  | none => .ok ()
  | some j => .error (.invalidParams ("Unexpected params: " ++ j.compact))

namespace Session

/-- A session that has not been started. -/
def new : Session :=
  ⟨.fresh, .empty⟩

/-- The fault of a call that comes before the start or after the end. -/
def refusal : Phase → Fault
  | .fresh => .notInitialized
  | _ => .invalidRequest

/-! ## §3. Serving. -/

/-- The notification that a method and its parameters are. -/
def notification? (m : Method) (params : Option Json) : Except Fault (Option Notification) :=
  match m with
  | .started => (decodeParams Protocol.started params).map fun _ => some .started
  | .didOpen => (decodeParams Protocol.opened params).map (some <| .opened ·)
  | .didChange => (decodeParams Protocol.changed params).map (some <| .changed ·)
  | .didClose => (decodeParams Protocol.closed params).map (some <| .closed ·)
  | _ => .ok none

/-- The question that a method and its parameters are. -/
def question? (m : Method) (params : Option Json) : Except Fault Question :=
  match m with
  | .definition => (decodeParams Protocol.definitionPlace params).map (.definition ·)
  | .references => (decodeParams Protocol.referencePlace params).map (.references ·)
  | .idleRequest feature => do
      decodeParams feature.params params
      .error (.methodNotFound none)
  | _ => .error (.methodNotFound none)

/-- Serve a method in a session that has been started. -/
def serve (s : Session) (m : Method) (id params : Option Json) : Reply × Session :=
  if m.isRequest then
    match question? m params with
    | .error f => (.fault id f [], s)
    | .ok q =>
        match s.workspace.answer q with
        | (.ok a, events, w) => (.result id a.toJson events, { s with workspace := w })
        | (.error e, events, w) =>
            (.fault id (.invalidParams e.message) events, { s with workspace := w })
  else
    match notification? m params with
    | .ok (some n) =>
        let (told, w) := s.workspace.note n
        (⟨none, told⟩, { s with workspace := w })
    | _ => (.nothing, s)

/-- Start the session; it stays unstarted if the parameters do not fit. -/
def start (s : Session) (id params : Option Json) : Reply × Session :=
  match id with
  | none => (.nothing, s)
  | some _ =>
      match decodeParams Protocol.hello params with
      | .error f => (.fault id f [], s)
      | .ok h => (.result id welcome h.events, { s with phase := .serving })

/-- Shut the session down, whatever the parameters. -/
def shutDown (s : Session) (id params : Option Json) : Reply × Session :=
  let s' := { s with phase := .shutDown }
  match id with
  | none => (.nothing, s')
  | some _ =>
      match noParams params with
      | .error f => (.fault id f [], s')
      | .ok () => (.result id .null [.shuttingDown], s')

/-- Dispatch a known method. -/
def dispatch (s : Session) (m : Method) (id params : Option Json) : Reply × Session :=
  match m, s.phase with
  | .exit, _ => (.nothing, { s with phase := .exited })
  | .start, .fresh => s.start id params
  | .start, _ => (.fault id .invalidRequest [], s)
  | .shutdown, .serving => s.shutDown id params
  | .cancel, _ => (.fault id .invalidRequest [], s)
  | m, .serving =>
      match m.isRequest, id with
      | true, none => (.nothing, s)
      | false, some _ => (.fault id .invalidRequest [], s)
      | _, _ => s.serve m id params
  | _, phase => (.fault id (refusal phase) [], s)

/-- The method concerns the protocol itself. -/
def isInternal (method : String) : Bool :=
  method.startsWith "$/"

/-- Handle a message.  A method that concerns the protocol itself need not
be known. -/
def handle (s : Session) (m : Message) : Except Exited Reply × Session :=
  if s.phase = .exited then (.error ⟨⟩, s)
  else match Method.ofName? m.method with
    | none =>
        if isInternal m.method then (.ok .nothing, s)
        else (.ok (.fault m.id (.methodNotFound (some m.method)) []), s)
    | some method =>
        let (reply, s') := s.dispatch method m.id m.params
        (.ok reply, s')

end Session

end DocNav
