/-
  DocNav.Session.Event
  ────────────────────
  What a session puts in its log.
-/
import DocNav.Workspace
import DocNav.Json.Basic

namespace DocNav

/-- How much an event matters. -/
inductive Level where
  | debug
  | info
  | warn
  deriving Repr, DecidableEq

/-- The name of a level in the log. -/
def Level.text : Level → String
  | .debug => "DEBUG"
  | .info => "INFO"
  | .warn => "WARN"

/-- Something that happened in a session. -/
inductive Event where
  /-- An editor said who it is. -/
  | connected (name version : String)
  /-- The workspace has a root. -/
  | root (path : String)
  /-- The workspace has no root. -/
  | noRoot
  /-- The editor ends the session. -/
  | shuttingDown
  /-- A document was opened. -/
  | opened (uri : Uri) (version : Int32)
  /-- Edits of a document have come in. -/
  | changed (uri : Uri) (version : Int32) (count : Nat)
  /-- The edits could not be made. -/
  | changeFailed (uri : Uri) (e : WorkspaceError)
  /-- A document was closed. -/
  | closed (uri : Uri)
  /-- A text was read into an outline. -/
  | parsed (reading : Reading)
  /-- A definition was looked for. -/
  | definition (uri : Uri) (line : UInt32) (found : Bool)
  /-- References were looked for. -/
  | references (uri : Uri) (line : UInt32) (count : Nat)
  /-- A question could not be answered. -/
  | queryFailed (e : WorkspaceError)
  deriving Repr, DecidableEq

namespace Event

/-- How much the event matters. -/
def level : Event → Level
  | .connected .. | .root _ | .noRoot | .shuttingDown => .info
  | .changeFailed .. | .queryFailed _ => .warn
  | _ => .debug

/-- The text of the event. -/
def message : Event → String
  | .connected .. => "connected to client"
  | .root _ => "workspace root"
  | .noRoot => "no workspace root"
  | .shuttingDown => "shutting down"
  | .opened .. => "did_open"
  | .changed .. => "did_change"
  | .changeFailed _ e => "failed to apply changes: " ++ e.message
  | .closed _ => "did_close"
  | .parsed _ => "parsed document"
  | .definition .. => "goto_definition"
  | .references .. => "references"
  | .queryFailed e => e.message

/-- The particulars of the event. -/
def fields : Event → List (String × Json)
  | .connected name version => [("name", .str name), ("version", .str version)]
  | .root path => [("root", .str path)]
  | .noRoot | .shuttingDown | .queryFailed _ => []
  | .opened uri version => [("uri", .str uri.text), ("version", .int version.toInt)]
  | .changed uri version count =>
      [("changes", .nat count), ("uri", .str uri.text), ("version", .int version.toInt)]
  | .changeFailed uri _ | .closed uri => [("uri", .str uri.text)]
  | .parsed r => [("lines", .nat r.lines), ("version", .int r.version.toInt)]
  | .definition uri line found =>
      [("found", .bool found), ("line", .nat line.toNat), ("uri", .str uri.text)]
  | .references uri line count =>
      [("count", .nat count), ("line", .nat line.toNat), ("uri", .str uri.text)]

end Event

end DocNav
