/-
  DocNav.Outline.Pointer
  ──────────────────────
  Pointers: the way to an entry as the keys from its root down to it,
  written `#/key/key`.

  Keys stand in a pointer as they are, so a key with a slash in it takes
  up two places when the pointer is read again.  What stands before the
  first slash is not looked at.
-/
import DocNav.Outline.Basic

namespace DocNav.Outline

/-- The lines from an entry up to its root, the entry first.  An entry
stands on a later line than the one above it. -/
def lineage (o : Outline) (line : Nat) : List Nat :=
  match o.entry? line with
  | none => []
  | some e =>
      line :: match e.parent with
        | none => []
        | some above => if above < line then lineage o above else []
termination_by line

/-- The keys on the way to an entry, the root's first. -/
def keys (o : Outline) (line : Nat) : List String :=
  (o.lineage line).reverse.filterMap fun l => (o.entry? l).map (·.key)

/-- The pointer that is written for a list of keys. -/
def written (keys : List String) : String :=
  "#/" ++ "/".intercalate keys

/-- The pointer of an entry; nothing if there is no such line. -/
def pointerOf? (o : Outline) (line : Nat) : Option String :=
  if line < o.size then some (written (o.keys line)) else none

/-- The keys that a pointer spells: the parts after its first slash. -/
def spelledKeys (pointer : String) : List String :=
  ((Text.splitOn '/' pointer.toList).drop 1).map String.ofList

/-- The entry that a list of keys leads to. -/
def descend? (o : Outline) : List String → Option Nat
  | [] => none
  | key :: keys => do
      let root ← o.root? key
      keys.foldlM o.child? root

/-- The entry that a pointer leads to. -/
def resolve? (o : Outline) (pointer : String) : Option Nat :=
  o.descend? (spelledKeys pointer)

end DocNav.Outline
