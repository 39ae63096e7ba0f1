/-
  DocNav.Text.Lines
  ─────────────────
  The lines of a text and the parts of a line.

  A newline ends a line and belongs to it, so the segments of a text put
  together are the text, and no line follows a final newline.  What a line
  says is the segment without its newline and without the carriage returns
  that go with it: up to two before a newline, one at the end of a text.
-/

namespace DocNav.Text

/-! ## §1. Segments. -/

/-- The text cut after each newline. -/
def segments : List Char → List (List Char)
  | [] => []
  | c :: cs =>
      if c = '\n' then [c] :: segments cs
      else match segments cs with
        | [] => [[c]]
        | s :: ss => (c :: s) :: ss

/-- The segments of a text put together are the text. -/
@[simp] theorem flatten_segments (cs : List Char) : (segments cs).flatten = cs := by
  induction cs with
  | nil => rfl
  | cons c cs ih =>
    unfold segments
    split
    · simp [ih]
    · cases h : segments cs with
      | nil => simp [h] at ih; simp [← ih]
      | cons s ss => simp [h] at ih; simp [← ih]

/-- The text without one carriage return at its end. -/
def dropReturn (cs : List Char) : List Char :=
  if cs.getLast? = some '\r' then cs.dropLast else cs

/-- What a segment says. -/
def content (segment : List Char) : List Char :=
  if segment.getLast? = some '\n' then dropReturn (dropReturn segment.dropLast)
  else dropReturn segment

/-- The lines of a text. -/
def lines (cs : List Char) : List (List Char) :=
  (segments cs).map content

/-! ## §2. Parts of a line. -/

/-- The parts of a text between the separators; one part if there is none. -/
def splitOn (sep : Char) : List Char → List (List Char)
  | [] => [[]]
  | c :: cs =>
      if c = sep then [] :: splitOn sep cs
      else match splitOn sep cs with
        | [] => [[c]]
        | s :: ss => (c :: s) :: ss

/-- There is always a part. -/
theorem splitOn_ne_nil (sep : Char) (cs : List Char) : splitOn sep cs ≠ [] := by
  cases cs with
  | nil => simp [splitOn]
  | cons c cs =>
    unfold splitOn
    split
    · simp
    · split <;> simp

/-- The part of a text before the last `mark`, if there is one. -/
def beforeLast (mark : Char) : List Char → Option (List Char)
  | [] => none
  | c :: cs =>
      match beforeLast mark cs with
      | some before => some (c :: before)
      | none => if c = mark then some [] else none

end DocNav.Text
