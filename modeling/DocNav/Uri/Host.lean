/-
  DocNav.Uri.Host
  ───────────────
  The hosts of addresses.

  The schemes of the web and `file` know names and numbers: a name is put
  in ASCII, and one that ends in a number has to be an address of four
  bytes.  Other schemes take any text.  Eight groups in brackets are a host
  of every scheme.
-/
import DocNav.Uri.Percent
import DocNav.Uri.Address
import DocNav.Domain.Basic
import DocNav.Text.Piece

namespace DocNav

/-- Why a text is not an address. -/
inductive UriError where
  /-- There is no scheme. -/
  | relative
  /-- A scheme that needs a host has none. -/
  | emptyHost
  /-- The port is not a number below 65536. -/
  | invalidPort
  /-- A character that no host can have. -/
  | invalidDomain
  /-- A name that cannot be put in ASCII. -/
  | invalidName
  /-- Numbers that are no four bytes. -/
  | invalidBytes
  /-- Brackets without eight groups in them. -/
  | invalidGroups
  deriving Repr, DecidableEq

/-- The wording of an error. -/
def UriError.message : UriError → String
  | .relative => "relative URL without a base"
  | .emptyHost => "empty host"
  | .invalidPort => "invalid port number"
  | .invalidDomain => "invalid domain character"
  | .invalidName => "invalid international domain name"
  | .invalidBytes => "invalid IPv4 address"
  | .invalidGroups => "invalid IPv6 address"

namespace Uri

/-- Eight groups in brackets, in normal form. -/
def bracketHost (cs : List Char) : Except UriError String :=
  match (if cs.getLast? == some ']' then groups8? (cs.drop 1).dropLast else none) with
  | some groups => .ok ("[" ++ groups8Text groups ++ "]")
  | none => .error .invalidGroups

/-- The host of a scheme of the web, in normal form. -/
def specialHost (cs : List Char) : Except UriError String :=
  if cs.head? == some '[' then bracketHost cs
  else match Domain.toAscii? (Utf8.lossy (decode (Utf8.encodeAll cs))) with
    | none => .error .invalidName
    | some [] => .error .emptyHost
    | some name =>
        if endsInNumber name then
          match bytes4? name with
          | some n => .ok (bytes4Text n)
          | none => .error .invalidBytes
        else .ok (String.ofList name)

/-- Characters that no host of another scheme has. -/
def isReserved (c : Char) : Bool :=
  ['\x00', '\t', '\n', '\r', ' ', '#', '/', ':', '<', '>', '?', '@', '[', '\\', ']', '^',
   '|'].contains c

/-- The host of any other scheme. -/
def plainHost (cs : List Char) : Except UriError String :=
  if cs.head? == some '[' then bracketHost cs
  else if cs.any isReserved then .error .invalidDomain
  else .ok (String.ofList (encode isControl cs))

end Uri

end DocNav
