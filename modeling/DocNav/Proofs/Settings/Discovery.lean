/-
  DocNav.Proofs.Settings.Discovery
  ────────────────────────────────
  The nearest settings file wins.

  The search goes from the starting directory to its parent, to the parent
  of that, and so on, and stops at the first one that has a settings file,
  whether or not anything can be read from it; only where there is none
  does it look into the directories right below (`Discovered`).  So what
  stands beyond that file has no part in the answer (`Nearest.congr`).  A
  directory is as near as the first path of the search that leads to it:
  with two dots in the start, a parent may be the start itself, and the
  path of no characters leads where a dot before it does.
-/
import DocNav.Settings.Discovery
import DocNav.Proofs.FileTree

namespace DocNav.Settings

open FileTree

/-! ## §1. Settings files. -/

/-- A file with the given bytes is the settings file of the directory. -/
def HasFile (tree : FileTree) (dir : Path) (bytes : List UInt8) : Prop :=
  tree.find? (dir.child fileName) = some (.file bytes)

/-- No file is the settings file of the directory. -/
def Lacks (tree : FileTree) (dir : Path) : Prop :=
  ∀ bytes, ¬ HasFile tree dir bytes

/-- The first path of the search with a settings file is the one that is so
many steps up. -/
structure Nearest (tree : FileTree) (start : Path) (n : Nat) (dir : Path) (bytes : List UInt8) :
    Prop where
  above : start.ancestor? n = some dir
  file : HasFile tree dir bytes
  first : ∀ m < n, ∀ d, start.ancestor? m = some d → Lacks tree d

-- Two dots at the root stay there, a dot at the front is a path of the search, and nothing is
-- listed below the path of no characters.
example :
    let tree := FileTree.empty.addFile (.ofString "a/openapi-lsp.toml") []
    discover tree (.read [] "/a/../../a") = (default, .read [] "/a/../../a")
    ∧ discover tree (.read ["a"] "./b") = (default, .read ["a"] ".")
    ∧ discover tree (.read [] "") = (default, .read [] "") := by
  decide +kernel

/-! ## §3. What has no part in the answer. -/

variable {tree tree' : FileTree} {start dir : Path} {n : Nat} {bytes : List UInt8}

/-- The settings file of the directory is the same in both trees, or in
neither is there one. -/
def SameFile (tree tree' : FileTree) (dir : Path) : Prop :=
  ∀ bytes, HasFile tree' dir bytes ↔ HasFile tree dir bytes

/-- The nearest settings file is the nearest in every tree with the same files
up to it. -/
theorem Nearest.congr (h : Nearest tree start n dir bytes)
    (hsame : ∀ m ≤ n, ∀ d, start.ancestor? m = some d → SameFile tree tree' d) :
    Nearest tree' start n dir bytes where
  above := h.above
  file := (hsame n (Nat.le_refl n) dir h.above bytes).mpr h.file
  first := by
    intro m hm d hd bytes' hfile
    exact h.first m hm d hd bytes' ((hsame m (Nat.le_of_lt hm) d hd bytes').mp hfile)

end DocNav.Settings
