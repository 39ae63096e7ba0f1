/-
  DocNav.Settings.Discovery
  ─────────────────────────
  Where the settings are: in the starting directory or the nearest one
  above it that has a settings file, or else in a directory right below
  the starting one.

  A settings file that cannot be read still counts as found.  The path of no
  characters may be where the search starts or ends: it has a settings file
  if the working directory has one, but no directories below it are listed.
-/
import DocNav.FileTree
import DocNav.Settings.Basic

namespace DocNav.Settings

/-- The name of the settings file. -/
def fileName : String := "openapi-lsp.toml"

/-- The settings of a directory, if it has a settings file. -/
def inDirectory? (tree : FileTree) (dir : Path) : Option Settings :=
  match tree.find? (dir.child fileName) with
  | some (.file bytes) => some (load (some bytes))
  | _ => none

/-- The first of some directories that has a settings file. -/
def firstOf? (tree : FileTree) (dirs : List Path) : Option (Settings × Path) :=
  dirs.findSome? fun dir => (inDirectory? tree dir).map (·, dir)

/-- The directories right below a directory; none if its path has no
characters. -/
def below (tree : FileTree) (dir : Path) : List Path :=
  match tree.find? dir with
  | some (.directory entries) =>
      entries.filterMap fun (name, sub) =>
        match sub with
        | .directory _ => some (dir.child name)
        | .file _ => none
  | _ => []

/-- The settings for a starting directory, and where they were found. -/
def discover (tree : FileTree) (start : Path) : Settings × Path :=
  ((firstOf? tree start.lineage).or (firstOf? tree (below tree start))).getD (default, start)

end DocNav.Settings
