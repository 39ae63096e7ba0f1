/-
  DocNav.Text.Reader
  ──────────────────
  Readers of the front of a text: a reader takes what it reads and leaves
  the rest, or fails and takes nothing.
-/

namespace DocNav

/-- A reader of the front of a text. -/
abbrev Reader := StateT (List Char) Option

namespace Reader

/-- A character of a class. -/
def one (p : Char → Bool) : Reader Char := fun cs =>
  match cs with
  | c :: rest => if p c then some (c, rest) else none
  | [] => none

/-- The longest run of characters of a class, which may be empty. -/
def run (p : Char → Bool) : Reader (List Char) := fun cs =>
  some (cs.takeWhile p, cs.dropWhile p)

/-- The longest run of characters of a class, which may not be empty. -/
def run1 (p : Char → Bool) : Reader (List Char) := do
  let found ← run p
  guard (!found.isEmpty)
  return found

/-- The given characters. -/
def literal (s : String) : Reader Unit := fun cs =>
  if s.toList.isPrefixOf cs then some ((), cs.drop s.length) else none

/-- What a reader reads, if it can. -/
def maybe {α : Type} (r : Reader α) : Reader (Option α) := fun cs =>
  match r cs with
  | some (a, rest) => some (some a, rest)
  | none => some (none, cs)

/-- The next character, left in place. -/
def peek : Reader (Option Char) := fun cs =>
  some (cs.head?, cs)

end Reader

end DocNav
