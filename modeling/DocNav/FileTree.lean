/-
  DocNav.FileTree
  ───────────────
  Directories and files, and the paths that lead through them.

  A path is read in two ways.  Its parent is a matter of its text alone:
  the path without its last name, even if that name is two dots.  What it
  leads to is a matter of the tree: two dots lead to the directory above,
  and the root is above itself.

  A path starts at the root or in the working directory.  There a dot at
  its front is a step of its own: above `./a` stands `.`, and above that
  the path of no characters, which cannot be opened although a name can be
  looked up below it.
-/
import DocNav.Text.Lines

namespace DocNav

/-! ## §1. Paths. -/

/-- Where a path starts. -/
inductive Path.Origin where
  /-- At the root of the tree. -/
  | root
  /-- In the working directory, which the names lead to from the root. -/
  | here (cwd : List String)
  /-- There too, with a dot that says so. -/
  | dot (cwd : List String)
  deriving Repr, DecidableEq

/-- A path, as where it starts and the parts between slashes from there on. -/
structure Path where
  origin : Path.Origin
  parts : List String
  deriving Repr, DecidableEq

namespace Path

/-- The way from the root to where a path starts. -/
def Origin.base : Origin → List String
  | root => []
  | here cwd | dot cwd => cwd

/-- How many steps up the start of a path counts for: one for a dot. -/
def Origin.dots : Origin → Nat
  | dot _ => 1
  | _ => 0

/-- A part that leads nowhere. -/
def isIdle (part : String) : Bool :=
  part == "" || part == "."

/-- Parts without idle ones at the end. -/
def trimEnd (parts : List String) : List String :=
  (parts.reverse.dropWhile isIdle).reverse

/-- The parts of a text between slashes. -/
def split (s : String) : List String :=
  (Text.splitOn '/' s.toList).map String.ofList

/-- The path from the root that a text spells.  The slash at its front may be
left out, so that no characters spell the root. -/
def ofString (s : String) : Path :=
  ⟨.root, split s⟩

/-- The path that a text spells in a working directory. -/
def read (cwd : List String) (s : String) : Path :=
  match split s with
  | [""] => ⟨.here cwd, []⟩
  | "" :: parts => ⟨.root, parts⟩
  | "." :: parts => ⟨.dot cwd, parts⟩
  | parts => ⟨.here cwd, parts⟩

/-- The text of a path after its start, without idle parts at its ends. -/
def text (p : Path) : String :=
  "/".intercalate (trimEnd (p.parts.dropWhile isIdle))

/-- The text of a path with its start. -/
def fullText (p : Path) : String :=
  match p.origin with
  | .root => "/" ++ p.text
  | .here _ => p.text
  | .dot _ => if p.text.isEmpty then "." else "./" ++ p.text

/-- The names on the way. -/
def names (p : Path) : List String :=
  p.parts.filter (!isIdle ·)

/-- The path has no characters. -/
def isBlank (p : Path) : Bool :=
  match p.origin with
  | .here _ => p.parts.isEmpty
  | _ => false

/-- A name below a path; a slash at the end of the path is the one before
the name. -/
def child (p : Path) (name : String) : Path where
  origin := p.origin
  parts := (if p.parts.getLast? = some "" then p.parts.dropLast else p.parts) ++ [name]

/-- The path without its last name, by its text alone; a dot at its front
goes last. -/
def parent? (p : Path) : Option Path :=
  if (trimEnd p.parts).isEmpty then
    match p.origin with
    | .dot cwd => some ⟨.here cwd, []⟩
    | _ => none
  else some ⟨p.origin, trimEnd (trimEnd p.parts).dropLast⟩

/-- Trimming adds no parts. -/
theorem length_trimEnd_le (parts : List String) : (trimEnd parts).length ≤ parts.length := by
  have := (List.dropWhile_sublist isIdle (l := parts.reverse)).length_le
  simpa [trimEnd] using this

/-- A parent has fewer parts, or no dot any more. -/
theorem length_parent?_lt {p q : Path} (h : p.parent? = some q) :
    q.parts.length + q.origin.dots < p.parts.length + p.origin.dots := by
  unfold parent? at h
  split at h
  · split at h
    next cwd horigin =>
      cases h
      rw [horigin]
      show 0 < p.parts.length + 1
      omega
    next => cases h
  · rename_i hne
    cases h
    have hle := length_trimEnd_le (trimEnd p.parts).dropLast
    have hall := length_trimEnd_le p.parts
    have hpos : (trimEnd p.parts).length ≠ 0 := by simpa using hne
    simp only [List.length_dropLast] at hle
    simp only
    omega

/-- A path, its parent, the parent of that, and so on as long as there is one. -/
def lineage (p : Path) : List Path :=
  p :: match _h : p.parent? with
    | none => []
    | some q => lineage q
termination_by p.parts.length + p.origin.dots
decreasing_by exact length_parent?_lt _h

end Path

/-! ## §2. Trees. -/

/-- A file with its bytes, or a directory with its entries by name. -/
inductive FileTree where
  | file (bytes : List UInt8)
  | directory (entries : List (String × FileTree))
  deriving Repr, BEq, Inhabited

namespace FileTree

/-- An empty directory. -/
def empty : FileTree :=
  .directory []

/-- What the parts of a path lead to from a directory or a file, with the
directories that it is in, the innermost first. -/
def walk? (here : FileTree) (outer : List FileTree) : List String → Option FileTree
  | [] => some here
  | part :: parts =>
      match here with
      | .file _ => none
      | .directory entries =>
          if Path.isIdle part then walk? here outer parts
          else if part == ".." then walk? (outer.headD here) outer.tail parts
          else match entries.lookup part with
            | some next => walk? next (here :: outer) parts
            | none => none

/-- What a path leads to; the path of no characters cannot be opened. -/
def find? (t : FileTree) (p : Path) : Option FileTree :=
  if p.isBlank then none else walk? t [] (p.origin.base ++ p.parts)

/-- Put something at the end of a way of names, making directories on it. -/
def insert (t : FileTree) (names : List String) (what : FileTree) : FileTree :=
  match names with
  | [] => what
  | name :: rest =>
      let entries := match t with
        | .directory entries => entries
        | .file _ => []
      match entries.lookup name with
      | some next =>
          .directory (entries.map fun e =>
            if e.1 == name then (name, insert next rest what) else e)
      | none => .directory (entries ++ [(name, insert empty rest what)])

/-- Make a directory, and those above it, unless it is there. -/
def addDirectory (t : FileTree) (p : Path) : FileTree :=
  match t.find? p with
  | some _ => t
  | none => t.insert p.names empty

/-- Write a file, making the directories above it. -/
def addFile (t : FileTree) (p : Path) (bytes : List UInt8) : FileTree :=
  t.insert p.names (.file bytes)

end FileTree

end DocNav
