/-
  DocNav.Buffer.Edit
  ──────────────────
  Edits of a buffer: a span given by positions replaced by a new text, or
  the whole text replaced.  A batch applies its edits one after another,
  each to the text that the one before it left.
-/
import DocNav.Buffer.Basic

namespace DocNav

/-- One edit. -/
structure Edit where
  /-- The span to replace; none for the whole text. -/
  range : Option Range
  /-- The text to put there. -/
  text : String
  deriving Repr, DecidableEq

namespace Buffer

/-- The buffer with the bytes from `start` to `stop` replaced. -/
def splice (b : Buffer) (start stop : Nat) (text : List UInt8) : Buffer :=
  ofBytes (b.bytes.take start ++ text ++ b.bytes.drop stop)

/-- Apply one edit.  The start of the range is looked up first, then its
end, and then the two are compared. -/
def apply (b : Buffer) (e : Edit) : Except BufferError Buffer :=
  match e.range with
  | none => .ok (ofString e.text)
  | some r => do
      let start ← b.offsetOf r.start
      let stop ← b.offsetOf r.stop
      if stop < start then .error (.invertedRange r.start r.stop)
      else .ok (b.splice start stop (Utf8.ofString e.text))

/-- Apply a batch of edits in order, up to the first that fails. -/
def applyAll (b : Buffer) (edits : List Edit) : Except BufferError Buffer :=
  edits.foldlM apply b

end Buffer

end DocNav
