/-
  DocNav.Protocol.Method
  ──────────────────────
  The methods of the protocol by name.

  A method is a request or a notification, whichever way it is called.
-/
import DocNav.Protocol.Feature

namespace DocNav.Protocol

/-- The methods of the protocol. -/
inductive Method where
  /-- Start the session. -/
  | start
  /-- The session has been started. -/
  | started
  /-- End the session. -/
  | shutdown
  /-- Leave. -/
  | exit
  /-- Give up a request. -/
  | cancel
  | didOpen
  | didChange
  | didClose
  | definition
  | references
  /-- A request that the server does nothing for. -/
  | idleRequest (feature : Feature)
  /-- A notification that the server does nothing for. -/
  | idleNotification
  deriving Repr, DecidableEq

/-- The notifications that the server does nothing for. -/
def idleNotifications : List String := [
  "textDocument/willSave", "textDocument/didSave", "workspace/didChangeConfiguration",
  "workspace/didChangeWorkspaceFolders", "workspace/didCreateFiles",
  "workspace/didRenameFiles", "workspace/didDeleteFiles", "workspace/didChangeWatchedFiles"]

namespace Method

/-- The method with the given name, if the server does something for it. -/
def served? : String → Option Method
  | "initialize" => some .start
  | "initialized" => some .started
  | "shutdown" => some .shutdown
  | "exit" => some .exit
  | "$/cancelRequest" => some .cancel
  | "textDocument/didOpen" => some .didOpen
  | "textDocument/didChange" => some .didChange
  | "textDocument/didClose" => some .didClose
  | "textDocument/definition" => some .definition
  | "textDocument/references" => some .references
  | _ => none

/-- The method with the given name, if the server does nothing for it. -/
def idle? (name : String) : Option Method :=
  ((Feature.byMethod.lookup name).map .idleRequest).or
    (if idleNotifications.contains name then some .idleNotification else none)

/-- The method with the given name. -/
def ofName? (name : String) : Option Method :=
  (served? name).or (idle? name)

/-- The method is a request. -/
def isRequest : Method → Bool
  | .start | .shutdown | .definition | .references | .idleRequest _ => true
  | _ => false

end Method

end DocNav.Protocol
