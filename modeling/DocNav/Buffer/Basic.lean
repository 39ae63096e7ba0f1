/-
  DocNav.Buffer.Basic
  ───────────────────
  A text as bytes with its line index, and the two ways between byte
  offsets and positions.

  From an offset to a position the bytes of the line are counted piece by
  piece, so every offset of the text has a position.  From a position to
  an offset whole characters are passed over until the column is reached,
  so only places between characters have an offset, and the text on the
  way must be well-formed.
-/
import DocNav.Text.Utf16
import DocNav.Position
import DocNav.Buffer.LineIndex

namespace DocNav

/-! ## §1. Errors. -/

/-- Why a place in a buffer cannot be found or an edit cannot be made. -/
inductive BufferError where
  /-- The offset lies past the end of the text. -/
  | offsetOutOfRange (offset size : Nat)
  /-- The position lies past the end of its line or of the text. -/
  | outOfRange (p : Position)
  /-- The end of a range lies before its start. -/
  | invertedRange (start stop : Position)
  /-- A byte on the way to the position is not part of a character. -/
  | invalidEncoding (offset : Nat)
  /-- The position lies inside a surrogate pair. -/
  | misalignedSurrogate (p : Position)
  /-- The buffer was never given a text and has no lines. -/
  | unindexed
  deriving Repr, DecidableEq

/-- The wording of an error. -/
def BufferError.message : BufferError → String
  | .offsetOutOfRange offset size => s!"offset {offset} is out of range [0, {size}]"
  | .outOfRange p => s!"position {p.text} is out of range"
  | .invertedRange start stop => s!"range end {stop.text} precedes start {start.text}"
  | .invalidEncoding offset => s!"invalid UTF-8 encoding at byte {offset}"
  | .misalignedSurrogate p =>
      s!"position {p.text} does not point to a valid UTF-16 code unit"
  | .unindexed => "the buffer has no lines"

/-! ## §2. Buffers. -/

/-- A text with its line index. -/
structure Buffer where
  /-- The text, well-formed UTF-8 or not. -/
  bytes : List UInt8
  /-- Where its lines start. -/
  index : LineIndex
  deriving Repr, DecidableEq

namespace Buffer

/-- The buffer of a text. -/
def ofBytes (bs : List UInt8) : Buffer :=
  ⟨bs, LineIndex.ofBytes bs⟩

@[simp] theorem bytes_ofBytes (bs : List UInt8) : (ofBytes bs).bytes = bs := rfl

/-- The buffer of a string. -/
def ofString (s : String) : Buffer :=
  ofBytes (Utf8.ofString s)

/-- A buffer that was never given a text.  Unlike the buffer of the empty
text it has no lines. -/
def blank : Buffer :=
  ⟨[], LineIndex.empty⟩

instance : Inhabited Buffer := ⟨blank⟩

/-- Number of lines: one more than there are newlines. -/
def lineCount (b : Buffer) : Nat :=
  b.index.count

/-- The text as a string, broken sequences replaced. -/
def text (b : Buffer) : String :=
  Utf8.lossyString b.bytes

/-! ## §3. Offsets and positions. -/

/-- The position of a byte offset. -/
def positionOf (b : Buffer) (offset : Nat) : Except BufferError Position :=
  if b.bytes.length < offset then .error (.offsetOutOfRange offset b.bytes.length)
  else match b.index.find? offset with
    | none => .error .unindexed
    | some (line, start) =>
        .ok ⟨line.toUInt32, Utf16.length ((b.bytes.take offset).drop start)⟩

/-- Pass over whole characters of `rest`, which starts at `offset` after
`units` units of its line, until the column of `p` is reached. -/
def seek (p : Position) (offset : Nat) (units : UInt32) (rest : List UInt8) :
    Except BufferError Nat :=
  if units < p.character then
    match rest with
    | [] => .error (.outOfRange p)
    | lead :: tail =>
      if lead = LineIndex.newline then .error (.outOfRange p)
      else match _h : Utf8.decode? (lead :: tail) with
        | none => .error (.invalidEncoding offset)
        | some (c, rest') =>
          let units' := units + Utf16.charUnits c
          if p.character < units' then .error (.misalignedSurrogate p)
          else seek p (offset + Utf8.width lead) units' rest'
  else .ok offset
termination_by rest.length
decreasing_by exact Utf8.length_lt_of_decode? _h

/-- The byte offset of a position.  Column 0 of the line after the last one
is the end of the text. -/
def offsetOf (b : Buffer) (p : Position) : Except BufferError Nat :=
  if p.line.toNat = b.lineCount ∧ p.character = 0 then .ok b.bytes.length
  else match b.index.start? p.line.toNat with
    | none => .error (.outOfRange p)
    | some start => seek p start 0 (b.bytes.drop start)

end Buffer

end DocNav
