/-
  DocNav.Protocol.Frame
  ─────────────────────
  Messages on a stream of bytes: a header with the length of the body in
  bytes, an empty line, and the body as JSON.
-/
import DocNav.Protocol.Message
import DocNav.Json.Reader
import DocNav.Json.Writer
import DocNav.Text.Utf8
import DocNav.Text.Lines

namespace DocNav.Protocol

/-! ## §1. Headers. -/

/-- The name of the header that gives the length. -/
def lengthHeader : String := "Content-Length"

/-- The length that a line of the header gives, if it gives one. -/
def contentLength? (line : String) : Option Nat :=
  match Text.splitOn ':' line.toList with
  | [name, value] =>
      let digits := (value.dropWhile (· == ' ')).takeWhile Char.isDigit
      if name.map Char.toLower == lengthHeader.toList.map Char.toLower && !digits.isEmpty then
        some (digits.foldl (fun n d => n * 10 + (d.toNat - 0x30)) 0)
      else none
  | _ => none

/-- A value with its header. -/
def framed (j : Json) : String :=
  let body := j.compact
  s!"{lengthHeader}: {(Utf8.ofString body).length}\x0d\n\x0d\n{body}"

/-! ## §2. Bodies. -/

/-- What a body is. -/
inductive Body where
  /-- A call. -/
  | call (m : Message)
  /-- Neither a call nor anything else that can be read. -/
  | unreadable
  /-- JSON that is not a call. -/
  | other

/-- The call that a value is. -/
def Message.ofJson? (j : Json) : Option Message :=
  match j with
  | .obj _ =>
      match j.get? "method" with
      | some (.str method) => some { method, id := j.get? "id", params := j.get? "params" }
      | some _ => none
      | none => some { method := "", id := j.get? "id", params := j.get? "params" }
  | _ => none

/-- Read a body. -/
def Body.read (bytes : List UInt8) : Body :=
  match (Utf8.decodeAll? bytes).bind Json.parse? with
  | none => .unreadable
  | some j =>
      match Message.ofJson? j with
      | some m => .call m
      | none => .other

/-- The response to a body that cannot be read. -/
def unreadableResponse : Json :=
  .obj [("error", .obj [("code", .int (-32700)), ("message", .str "Parse error")]),
    ("id", .null), ("jsonrpc", .str "2.0")]

/-- The response to JSON that is not a call. -/
def otherResponse : Json :=
  Response.toJson ⟨.null, .error .invalidRequest⟩

end DocNav.Protocol
