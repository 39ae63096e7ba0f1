/-
  DocNav.Protocol.Message
  ───────────────────────
  What passes between an editor and the server: calls that come in,
  responses to them, and notices that the server sends of its own accord.
-/
import DocNav.Json.Basic

namespace DocNav.Protocol

/-- A call from the editor.  With an id it is a request and wants a
response; without one it is a notification. -/
structure Message where
  method : String
  /-- A number, a string or null. -/
  id : Option Json
  params : Option Json
  deriving Repr, BEq

/-! ## §1. Faults. -/

/-- Why a request has no result. -/
inductive Fault where
  /-- The session has not been started. -/
  | notInitialized
  /-- The session does not take this request now. -/
  | invalidRequest
  /-- Nobody handles the method; it is named if it is not known at all. -/
  | methodNotFound (name : Option String)
  /-- The parameters are not what the method needs. -/
  | invalidParams (message : String)
  deriving Repr, DecidableEq

namespace Fault

/-- The number of a fault. -/
def code : Fault → Int
  | .notInitialized => -32002
  | .invalidRequest => -32600
  | .methodNotFound _ => -32601
  | .invalidParams _ => -32602

/-- The wording of a fault. -/
def message : Fault → String
  | .notInitialized => "Server not initialized"
  | .invalidRequest => "Invalid request"
  | .methodNotFound _ => "Method not found"
  | .invalidParams message => message

/-- A fault as a value. -/
def toJson (f : Fault) : Json :=
  let data := match f with
    | .methodNotFound (some name) => [("data", Json.str name)]
    | _ => []
  .obj ([("code", Json.int f.code)] ++ data ++ [("message", Json.str f.message)])

end Fault

/-! ## §2. Responses and notices. -/

/-- The response to a request. -/
structure Response where
  id : Json
  outcome : Except Fault Json

/-- A response as a value. -/
def Response.toJson (r : Response) : Json :=
  match r.outcome with
  | .ok result => .obj [("id", r.id), ("jsonrpc", .str "2.0"), ("result", result)]
  | .error fault => .obj [("error", fault.toJson), ("id", r.id), ("jsonrpc", .str "2.0")]

/-- How much a notice matters. -/
inductive Severity where
  | error
  | info
  deriving Repr, DecidableEq

/-- The number of a severity. -/
def Severity.code : Severity → Int
  | .error => 1
  | .info => 3

/-- A line of text for the editor to show. -/
structure Notice where
  severity : Severity
  message : String
  deriving Repr, DecidableEq

/-- A notice as a value. -/
def Notice.toJson (n : Notice) : Json :=
  .obj [("jsonrpc", .str "2.0"), ("method", .str "window/logMessage"),
    ("params", .obj [("message", .str n.message), ("type", .int n.severity.code)])]

end DocNav.Protocol
