/-
  DocNav.Position
  ───────────────
  Places in a text as an editor names them: a line and a column in UTF-16
  code units, both counted from zero in 32-bit words.
-/

namespace DocNav

/-- A place in a text. -/
structure Position where
  /-- Line, counted from zero. -/
  line : UInt32
  /-- Column in UTF-16 code units, counted from zero. -/
  character : UInt32
  deriving Repr, DecidableEq, Inhabited

/-- A span of text from `start` up to, and without, `stop`. -/
structure Range where
  start : Position
  stop : Position
  deriving Repr, DecidableEq, Inhabited

namespace Position

/-- A position in messages: line and column with a colon between. -/
def text (p : Position) : String :=
  s!"{p.line.toNat}:{p.character.toNat}"

/-- Positions in reading order. -/
def precedes (p q : Position) : Bool :=
  p.line < q.line || (p.line == q.line && p.character < q.character)

end Position

/-- The span between two columns of one line. -/
def Range.within (line : UInt32) (start stop : UInt32) : Range :=
  ⟨⟨line, start⟩, ⟨line, stop⟩⟩

end DocNav
