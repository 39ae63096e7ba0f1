/-
  DocNav.Outline.Basic
  ────────────────────
  A text as an outline: one entry for every line, nested by indentation.

  The entry above another is the nearest earlier line that is indented
  less, whatever that line says.  Lines are added one at a time against
  the stack of entries that may still take children; a line closes every
  entry that is indented as much as it is or more.  Under a parent, and
  among the entries that have none, the last line with a key is the one
  that the key finds.
-/
import Std.Data.ExtTreeMap
import DocNav.Outline.Item

namespace DocNav

/-- Entries by key, in the order of the keys. -/
abbrev KeyMap := Std.ExtTreeMap String Nat

/-- One line in its outline.  Entries are named by their line number. -/
structure Entry extends Item where
  /-- The entry above. -/
  parent : Option Nat
  /-- The entries directly below, by key. -/
  children : KeyMap
  deriving DecidableEq, Inhabited

/-- The entry directly below with the given key. -/
def Entry.child? (e : Entry) (key : String) : Option Nat :=
  e.children[key]?

/-- The entries of a text. -/
structure Outline where
  /-- The entries in the order of their lines. -/
  entries : Array Entry
  /-- The entries with nothing above them, by key. -/
  roots : KeyMap
  deriving DecidableEq, Inhabited

namespace Outline

/-- The outline of the empty text. -/
def empty : Outline :=
  ⟨#[], ∅⟩

/-- Number of entries. -/
def size (o : Outline) : Nat :=
  o.entries.size

/-- The entry of a line. -/
def entry? (o : Outline) (line : Nat) : Option Entry :=
  o.entries[line]?

/-- The entry with the given key and nothing above it. -/
def root? (o : Outline) (key : String) : Option Nat :=
  o.roots[key]?

/-- The entry with the given key directly below `line`. -/
def child? (o : Outline) (line : Nat) (key : String) : Option Nat :=
  (o.entry? line).bind (·.child? key)

/-! ## §1. Adding a line. -/

/-- An entry that may still take children. -/
structure Open where
  line : Nat
  indent : Nat
  deriving Repr, DecidableEq

/-- An outline under construction, with the innermost open entry first. -/
structure Builder where
  outline : Outline
  stack : List Open
  deriving DecidableEq

namespace Builder

/-- Nothing read yet. -/
def start : Builder :=
  ⟨.empty, []⟩

/-- The entries left open by a line with the given indentation. -/
def remaining (b : Builder) (indent : Nat) : List Open :=
  b.stack.dropWhile fun above => indent ≤ above.indent

/-- Record that `line` has the given key under `parent`. -/
def link (o : Outline) (parent : Option Nat) (key : String) (line : Nat) : Outline :=
  match parent with
  | some above =>
      { o with entries := o.entries.modify above fun e =>
          { e with children := e.children.insert key line } }
  | none => { o with roots := o.roots.insert key line }

/-- Add what the next line says. -/
def add (b : Builder) (item : Item) : Builder :=
  let line := b.outline.size
  let stack := b.remaining item.indent
  let parent := stack.head?.map Open.line
  let linked := link b.outline parent item.key line
  { outline := { linked with
      entries := linked.entries.push { item with parent, children := ∅ } }
    stack := ⟨line, item.indent⟩ :: stack }

/-- Linking adds no entry. -/
@[simp] theorem size_link (o : Outline) (parent : Option Nat) (key : String) (line : Nat) :
    (link o parent key line).size = o.size := by
  cases parent <;> simp [link, size]

/-- Each line adds one entry. -/
@[simp] theorem size_add (b : Builder) (item : Item) :
    (b.add item).outline.size = b.outline.size + 1 := by
  have h := size_link b.outline ((b.remaining item.indent).head?.map Open.line) item.key
    b.outline.size
  simp only [size] at h
  simp [add, size, h]

/-- Add the next line. -/
def addLine (b : Builder) (text : List Char) : Builder :=
  b.add (Item.read b.outline.size.toUInt32 text)

end Builder

/-! ## §2. Reading a text. -/

/-- The outline of a list of lines. -/
def ofLines (lines : List (List Char)) : Outline :=
  (lines.foldl Builder.addLine .start).outline

/-- The outline of a text. -/
def parse (source : List Char) : Outline :=
  ofLines (Text.lines source)

end Outline

end DocNav
