/-
  DocNav.Document
  ───────────────
  A document that an editor has open: its text, the version the editor
  gave it, and the outline of the text once somebody has asked for it.

  A batch of edits is all or nothing.  Once it has been made, the outline
  is forgotten, even if the batch was empty; when it fails, the document
  stays as it was, outline included.
-/
import DocNav.Buffer.Edit
import DocNav.Outline.Navigation

namespace DocNav

/-- One open document. -/
structure Document where
  /-- The text. -/
  buffer : Buffer
  /-- The version the editor gave to the text. -/
  version : Int32
  /-- The outline of the text, if it has been read. -/
  cached : Option Outline
  deriving DecidableEq

/-- A text was read into an outline. -/
structure Reading where
  /-- The version of the text. -/
  version : Int32
  /-- Number of lines read. -/
  lines : Nat
  deriving Repr, DecidableEq

/-- The answer to a question, the reading it took, if any, and what holds
the outline afterwards. -/
structure Answered (σ α : Type) where
  value : α
  reading : Option Reading
  state : σ

namespace Document

/-- A document with the given text, not read yet. -/
def ofBuffer (buffer : Buffer) (version : Int32) : Document :=
  ⟨buffer, version, none⟩

/-- Make a batch of edits, all of them or none. -/
def change (d : Document) (version : Int32) (edits : List Edit) :
    Except BufferError Document := do
  let buffer ← d.buffer.applyAll edits
  return ofBuffer buffer version

/-- The outline of the text as it stands. -/
def read (d : Document) : Outline :=
  Outline.parse (Utf8.lossy d.buffer.bytes)

/-- Ask a question about the outline, reading the text only if it has not
been read. -/
def consult {α : Type} (d : Document) (ask : Outline → α) : Answered Document α :=
  match d.cached with
  | some o => { value := ask o, reading := none, state := d }
  | none =>
      let o := d.read
      { value := ask o
        reading := some ⟨d.version, o.size⟩
        state := { d with cached := some o } }

end Document

end DocNav
