/-
  DocNav.Uri.Path
  ───────────────
  The normal form of paths.

  A dot stays in its directory and two dots go up, but never above a
  segment that looks like a drive.  A path of a file that begins with a
  drive has a colon after its letter, and no path of a file begins with an
  empty segment.
-/
import DocNav.Uri.Percent
import DocNav.Text.Lines

namespace DocNav.Uri

/-! ## §1. Segments. -/

/-- The character divides the segments of a path. -/
def isSlash (special : Bool) (c : Char) : Bool :=
  c == '/' || (special && c == '\\')

/-- The segments between slashes. -/
def rawSegments (special : Bool) (cs : List Char) : List (List Char) :=
  Text.splitOn '/' (cs.map fun c => if isSlash special c then '/' else c)

/-- A segment with encoded dots written as dots. -/
def dotted (segment : List Char) : List Char :=
  match segment with
  | '%' :: '2' :: e :: rest => if e.toLower == 'e' then '.' :: dotted rest else segment
  | c :: rest => c :: dotted rest
  | [] => []

/-- A drive: a letter and a colon or bar. -/
def isDrive : List Char → Bool
  | [letter, mark] => letter.isAlpha && (mark == ':' || mark == '|')
  | _ => false

/-! ## §2. Steps. -/

/-- The path without its last segment; a drive stays. -/
def parent (path : List String) : List String :=
  match path.getLast? with
  | some last => if isDrive last.toList then path else path.dropLast
  | none => []

/-- A segment in normal form; the drive that the path of a file begins with
gets a colon. -/
def named (file : Bool) (path : List String) (segment : List Char) : String :=
  match segment with
  | [letter, _] =>
      if file && path.isEmpty && isDrive segment then String.ofList [letter, ':']
      else String.ofList (encode inPath segment)
  | _ => String.ofList (encode inPath segment)

/-- Add a segment to a path: a dot stays where it is, two dots go up, and
either leaves an empty name at the end of the path. -/
def step (file : Bool) (path : List String) (segment : List Char) (last : Bool) :
    List String :=
  if dotted segment == ['.', '.'] then
    if last then parent path ++ [""] else parent path
  else if dotted segment == ['.'] then
    if last then path ++ [""] else path
  else path ++ [named file path segment]

/-- The normal form of the segments after those of a path. -/
def normalise (file : Bool) : List String → List (List Char) → List String
  | path, [] => path
  | path, segment :: rest => normalise file (step file path segment rest.isEmpty) rest

/-! ## §3. Paths of files. -/

/-- A path without the empty segments that it begins with. -/
def flush (path : List String) : List String :=
  match path.dropWhile (· == "") with
  | [] => [""]
  | rest => rest

/-- The path begins with a drive. -/
def hasDrive (path : List String) : Bool :=
  match path with
  | first :: _ => isDrive first.toList
  | [] => false

end DocNav.Uri
