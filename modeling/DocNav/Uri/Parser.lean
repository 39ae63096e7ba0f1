/-
  DocNav.Uri.Parser
  ─────────────────
  Reading an address into its normal form.

  Scheme and host are put in lower case, the usual port of a scheme is
  dropped, steps to the same and to the parent directory are taken, and
  reserved characters are percent-encoded.  The schemes of the web and
  `file` always have a host and a path and take a backslash for a slash;
  `file` knows drive letters and drops the host `localhost`.
-/
import DocNav.Uri.Basic
import DocNav.Uri.Host

namespace DocNav

namespace Uri

/-! ## §1. Schemes. -/

/-- The usual ports of the schemes of the web. -/
def usualPort? : String → Option Nat
  | "http" | "ws" => some 80
  | "https" | "wss" => some 443
  | "ftp" => some 21
  | _ => none

/-- Schemes that always have a host and a path. -/
def isSpecial (scheme : String) : Bool :=
  scheme == "file" || (usualPort? scheme).isSome

/-- Characters of a scheme after its first letter. -/
def isSchemeChar (c : Char) : Bool :=
  c.isAlphanum || c == '+' || c == '-' || c == '.'

/-- The scheme of an address, in lower case, and what follows its colon. -/
def scheme? (cs : List Char) : Option (String × List Char) :=
  let name := cs.takeWhile isSchemeChar
  match name, cs.drop name.length with
  | c :: _, ':' :: rest =>
      if c.isAlpha then some (String.ofList (name.map Char.toLower), rest) else none
  | _, _ => none

/-! ## §2. Paths. -/

/-- The path that starts after a slash. -/
def readPath (scheme : String) (cs : List Char) : UriPath :=
  .rooted (normalise false [] (rawSegments (isSpecial scheme) cs))

/-- The path after an authority: the slash before it may be missing where
a path is needed, and no path may be there where it is not. -/
def readPathAfter (scheme : String) (cs : List Char) : UriPath :=
  match cs with
  | [] => if isSpecial scheme then readPath scheme [] else .rooted []
  | c :: rest => if isSlash (isSpecial scheme) c then readPath scheme rest else readPath scheme cs

/-! ## §3. Authorities. -/

/-- User name and password before the host. -/
def readUserInfo (cs : List Char) : Option String :=
  let name := cs.takeWhile (· != ':')
  let password := (cs.drop name.length).drop 1
  let written := encode inUserInfo name ++
    (if password.isEmpty then [] else ':' :: encode inUserInfo password)
  if written.isEmpty then none else some (String.ofList written)

/-- The host before a colon outside brackets. -/
def hostText (inside : Bool) : List Char → List Char
  | [] => []
  | c :: cs =>
      if c == ':' && !inside then []
      else c :: hostText (c == '[' || (inside && c != ']')) cs

/-- The port at the front of a text, and what follows it.  A port ends with
the authority or at a backslash. -/
def readPort (scheme : String) (cs : List Char) :
    Except UriError (Option Nat × List Char) :=
  let digits := cs.takeWhile Char.isDigit
  let rest := cs.drop digits.length
  let n := digits.foldl (fun n d => n * 10 + (d.toNat - 0x30)) 0
  if 65535 < n || !(rest.isEmpty || rest.head? == some '\\') then .error .invalidPort
  else if digits.isEmpty || usualPort? scheme == some n then .ok (none, rest)
  else .ok (some n, rest)

/-- The authority of a scheme other than `file`, and what is left of its
text for the path.  Whether anything follows the text matters to an empty
user before an empty host. -/
def readAuthority (scheme : String) (cs : List Char) (followed : Bool) :
    Except UriError (Authority × List Char) := do
  let user := Text.beforeLast '@' cs
  let served := match user with
    | some u => cs.drop (u.length + 1)
    | none => cs
  if user == some [] && served.isEmpty && followed then throw .emptyHost
  let name := hostText false served
  let userInfo := user.bind readUserInfo
  if name.isEmpty && (isSpecial scheme || userInfo.isSome || !served.isEmpty) then
    throw .emptyHost
  let host ← if isSpecial scheme then specialHost name else plainHost name
  let (port, rest) ← match served.drop name.length with
    | [] => pure (none, [])
    | _ :: digits => readPort scheme digits
  return ({ userInfo, host, port }, rest)

/-! ## §4. Addresses. -/

/-- The authority of a file: a host and nothing else. -/
def fileHost (host : String) : Authority :=
  { userInfo := none, host, port := none }

/-- The file at an address, after the colon.  A host is dropped where the
path begins with a drive. -/
def filePlace (cs : List Char) : Except UriError (Authority × UriPath) := do
  let path (cs : List Char) : List String := normalise true [] (rawSegments true cs)
  let afterSlash (cs : List Char) : List Char :=
    match cs with
    | c :: rest => if isSlash true c then rest else cs
    | [] => []
  let here (cs : List Char) : Authority × UriPath := (fileHost "", .rooted (flush (path cs)))
  match cs with
  | a :: b :: rest =>
      if isSlash true a && isSlash true b then
        let name := rest.takeWhile (!isSlash true ·)
        if isDrive name then return here rest
        let host ← if name.isEmpty then pure "" else specialHost name
        let tail := rest.drop name.length
        if host == "" || host == "localhost" then return here tail
        let segments := path (afterSlash tail)
        return (fileHost (if hasDrive segments then "" else host), .rooted (flush segments))
      else return here (afterSlash cs)
  | _ => return here (afterSlash cs)

/-- Authority and path, after the colon; `followed` if a query or fragment
comes after them. -/
def place (scheme : String) (cs : List Char) (followed : Bool) :
    Except UriError (Option Authority × UriPath) := do
  let served (rest : List Char) : Except UriError (Option Authority × UriPath) := do
    let text := rest.takeWhile (!isSlash (isSpecial scheme) ·)
    let tail := rest.drop text.length
    let (authority, left) ← readAuthority scheme text (followed || !tail.isEmpty)
    return (some authority, readPathAfter scheme (left ++ tail))
  if scheme == "file" then
    let (authority, path) ← filePlace cs
    return (some authority, path)
  else if isSpecial scheme then served (cs.dropWhile (isSlash true))
  else match cs with
    | '/' :: '/' :: rest => served rest
    | '/' :: rest => return (none, readPath scheme rest)
    | _ => return (none, .bare (String.ofList (encode isControl cs)))

/-- The text without blanks and controls at its ends and without tabs and
line ends anywhere. -/
def trimmed (cs : List Char) : List Char :=
  let blank (c : Char) : Bool := c.toNat ≤ 0x20
  let ends := ((cs.dropWhile blank).reverse.dropWhile blank).reverse
  ends.filter fun c => !(c == '\t' || c == '\n' || c == '\r')

/-- Read an address. -/
def parse (input : String) : Except UriError Uri := do
  let some (scheme, rest) := scheme? (trimmed input.toList) | throw .relative
  let main := rest.takeWhile fun c => c != '?' && c != '#'
  let (query, after) := match rest.drop main.length with
    | '?' :: tail =>
        let q := tail.takeWhile (· != '#')
        let reserved := if isSpecial scheme then inSpecialQuery else inQuery
        (some (String.ofList (encode reserved q)), tail.drop q.length)
    | tail => (none, tail)
  let fragment := match after with
    | '#' :: f => some (String.ofList (encode inFragment f))
    | _ => none
  let (authority, path) ← place scheme main (main.length < rest.length)
  return { scheme, authority, path, query, fragment }

end Uri

end DocNav
