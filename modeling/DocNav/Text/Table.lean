/-
  DocNav.Text.Table
  ─────────────────
  Properties of characters as tables of code points.

  A table is written as a text: entries with blanks between them, each a
  code point or a range of code points in hexadecimal digits.  Where the
  characters of a range have a value, it stands after a colon.
-/
import DocNav.Text.Hex
import DocNav.Text.Lines

namespace DocNav

/-! ## §1. Words and numbers. -/

namespace Text

/-- The words of a text, between blanks and newlines. -/
def words (text : String) : List (List Char) :=
  (splitOn ' ' (text.toList.map fun c => if c = '\n' then ' ' else c)).filter (!·.isEmpty)

/-- A text cut at the first `mark`; all of it and nothing if there is none. -/
def cut (mark : Char) (cs : List Char) : List Char × List Char :=
  (cs.takeWhile (· ≠ mark), (cs.dropWhile (· ≠ mark)).drop 1)

end Text

/-- The number that the hexadecimal digits of a text spell. -/
def Hex.toNat (digits : List Char) : Nat :=
  digits.foldl (fun n d => n * 16 + (Hex.value? d).getD 0) 0

/-! ## §2. Tables. -/

/-- A range of code points with a value. -/
structure CodeRange (α : Type) where
  first : Nat
  last : Nat
  value : α
  deriving Repr

/-- A property of characters: the value of each range of code points that
has one. -/
abbrev CharTable (α : Type) := List (CodeRange α)

namespace CharTable

/-- The value of a character, if it has one. -/
def find? {α : Type} (t : CharTable α) (c : Char) : Option α :=
  (List.find? (fun r => r.first ≤ c.toNat && c.toNat ≤ r.last) t).map (·.value)

/-- The character has a value. -/
def has {α : Type} (t : CharTable α) (c : Char) : Bool :=
  (t.find? c).isSome

/-- The table that a text spells, given what its values mean. -/
def ofText {α : Type} (value : List Char → α) (text : String) : CharTable α :=
  (Text.words text).map fun word =>
    let (range, tag) := Text.cut ':' word
    let (first, last) := Text.cut '-' range
    let low := Hex.toNat first
    { first := low, last := if last.isEmpty then low else Hex.toNat last, value := value tag }

end CharTable

/-- A set of characters: a table without values. -/
abbrev CharSet := CharTable Unit

/-- The set of characters that a text spells. -/
def CharSet.ofText (text : String) : CharSet :=
  CharTable.ofText (fun _ => ()) text

end DocNav
