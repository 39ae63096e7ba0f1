/-
  DocNav.Buffer.LineIndex
  ───────────────────────
  Where the lines of a text start.

  The first line starts at offset 0 and another starts after every newline
  byte.  The starts increase strictly, so the line that holds an offset is
  the last one that starts at or before it, and bisection finds it.
-/

namespace DocNav

/-- The byte offsets at which lines start. -/
structure LineIndex where
  starts : Array Nat
  deriving Repr, DecidableEq, Inhabited

namespace LineIndex

/-- The newline byte. -/
def newline : UInt8 := 0x0A

/-- The starts that newlines give to the lines after them, the first byte
of `bs` standing at `offset`. -/
def startsAfter (offset : Nat) : List UInt8 → List Nat
  | [] => []
  | b :: bs =>
      if b = newline then (offset + 1) :: startsAfter (offset + 1) bs
      else startsAfter (offset + 1) bs

/-- The index of a text. -/
def ofBytes (bs : List UInt8) : LineIndex :=
  ⟨(0 :: startsAfter 0 bs).toArray⟩

/-- The index of a text that was never given: no lines at all. -/
def empty : LineIndex :=
  ⟨#[]⟩

/-- Number of lines. -/
def count (index : LineIndex) : Nat :=
  index.starts.size

/-- Where a line starts. -/
def start? (index : LineIndex) (line : Nat) : Option Nat :=
  index.starts[line]?

/-- The number of starts at or before `offset` among the first `hi`, those
among the first `lo` being so: halve the part in between. -/
def bisect (starts : Array Nat) (offset lo hi : Nat) : Nat :=
  if lo < hi then
    let mid := (lo + hi) / 2
    if starts.getD mid 0 ≤ offset then bisect starts offset (mid + 1) hi
    else bisect starts offset lo mid
  else lo
termination_by hi - lo

/-- The line that holds `offset` and the offset where it starts; nothing if
the index has no lines. -/
def find? (index : LineIndex) (offset : Nat) : Option (Nat × Nat) :=
  match bisect index.starts offset 0 index.count with
  | 0 => none
  | line + 1 => (index.start? line).map (line, ·)

end LineIndex

end DocNav
