/-
  DocNav.Uri.Basic
  ────────────────
  Addresses of documents in parts, and their written form.

  Two addresses are the same document when their written forms are equal.
-/
import DocNav.Uri.Path
import DocNav.Text.Piece

namespace DocNav

/-- Who serves the document. -/
structure Authority where
  /-- User name and password, encoded, as they stand before the `@`. -/
  userInfo : Option String
  /-- The host in normal form; it may be empty. -/
  host : String
  /-- The port, if it is not the usual one of the scheme. -/
  port : Option Nat
  deriving Repr, DecidableEq

/-- Where the document is. -/
inductive UriPath where
  /-- Names from the root down. -/
  | rooted (segments : List String)
  /-- A text that only the scheme understands. -/
  | bare (text : String)
  deriving Repr, DecidableEq

/-- The address of a document. -/
structure Uri where
  /-- The scheme, lower-case. -/
  scheme : String
  authority : Option Authority
  path : UriPath
  query : Option String
  fragment : Option String
  deriving Repr, DecidableEq

namespace Authority

/-- The written form, without the slashes before it. -/
def text (a : Authority) : String :=
  let user := match a.userInfo with
    | some u => u ++ "@"
    | none => ""
  let port := match a.port with
    | some p => ":" ++ toString p
    | none => ""
  user ++ a.host ++ port

end Authority

namespace Uri

/-- The written form of the path.  Where nothing stands before it, it must
not be taken for the start of an authority. -/
def pathText (hasAuthority : Bool) : UriPath → String
  | .bare t => t
  | .rooted segments =>
      let slashed := String.join (segments.map ("/" ++ ·))
      match hasAuthority, segments with
      | false, "" :: _ :: _ => "/." ++ slashed
      | _, _ => slashed

/-- The written form of an address. -/
def text (u : Uri) : String :=
  let authority := match u.authority with
    | some a => "//" ++ a.text
    | none => ""
  let query := match u.query with
    | some q => "?" ++ q
    | none => ""
  let fragment := match u.fragment with
    | some f => "#" ++ f
    | none => ""
  u.scheme ++ ":" ++ authority ++ pathText u.authority.isSome u.path ++ query ++ fragment

/-- The host is this machine: none, or the name for it. -/
def isLocal (u : Uri) : Bool :=
  match u.authority with
  | some a => a.host == "" || a.host == "localhost"
  | none => true

/-- The path of a file, for an address on this machine that names one.  A
path that ends in a drive names the root of that drive. -/
def filePath? (u : Uri) : Option String :=
  match u.path with
  | .bare _ | .rooted [] => none
  | .rooted segments =>
      if u.isLocal then
        let named := String.join (segments.map ("/" ++ ·))
        let bytes := Uri.decode (Utf8.ofString named)
        let drive := Utf8.lossy (bytes.drop (bytes.length - 2))
        let closing := if 2 < bytes.length && isDrive drive then "/" else ""
        some (Utf8.lossyString bytes ++ closing)
      else none

end Uri

end DocNav
