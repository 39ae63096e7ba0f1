/-
  DocNav.Workspace
  ────────────────
  The documents that an editor has open, by the written form of their
  address.

  Opening an open document starts it anew.  Questions about a document
  that is not open, and changes of it, fail; closing it again does
  nothing.
-/
import Std.Data.ExtTreeMap
import DocNav.Document
import DocNav.Uri.Parser

namespace DocNav

/-- A span of text in a document. -/
structure Location where
  uri : Uri
  range : Range
  deriving Repr, DecidableEq

/-- Why a workspace cannot do what was asked. -/
inductive WorkspaceError where
  /-- The document is not open. -/
  | unknownDocument (uri : Uri)
  /-- An edit cannot be made. -/
  | buffer (e : BufferError)
  deriving Repr, DecidableEq

/-- The wording of an error. -/
def WorkspaceError.message : WorkspaceError → String
  | .unknownDocument uri => s!"unknown document: {uri.text}"
  | .buffer e => e.message

/-- The open documents. -/
structure Workspace where
  documents : Std.ExtTreeMap String Document
  deriving DecidableEq

namespace Workspace

/-- No document is open. -/
def empty : Workspace :=
  ⟨∅⟩

instance : Inhabited Workspace := ⟨empty⟩

/-- The open document at an address. -/
def find? (w : Workspace) (uri : Uri) : Option Document :=
  w.documents[uri.text]?

/-- The workspace with a document in place. -/
def put (w : Workspace) (uri : Uri) (d : Document) : Workspace :=
  ⟨w.documents.insert uri.text d⟩

/-- A document that was put in place is found there, and all others as before. -/
theorem find?_put (w : Workspace) (uri other : Uri) (d : Document) :
    (w.put uri d).find? other = if uri.text = other.text then some d else w.find? other := by
  simp [find?, put, Std.ExtTreeMap.getElem?_insert]

/-- Open a document, or open it anew. -/
def openDocument (w : Workspace) (uri : Uri) (text : String) (version : Int32) : Workspace :=
  w.put uri (.ofBuffer (.ofString text) version)

/-- Close a document. -/
def closeDocument (w : Workspace) (uri : Uri) : Workspace :=
  ⟨w.documents.erase uri.text⟩

/-- A document that was closed is not found, and all others as before. -/
theorem find?_closeDocument (w : Workspace) (uri other : Uri) :
    (w.closeDocument uri).find? other = if uri.text = other.text then none else w.find? other := by
  simp [find?, closeDocument, Std.ExtTreeMap.getElem?_erase]

/-- Make a batch of edits in a document, all of them or none. -/
def change (w : Workspace) (uri : Uri) (version : Int32) (edits : List Edit) :
    Except WorkspaceError Workspace :=
  match w.find? uri with
  | none => .error (.unknownDocument uri)
  | some d =>
      match d.change version edits with
      | .error e => .error (.buffer e)
      | .ok d' => .ok (w.put uri d')

/-- The document is open. -/
def isOpen (w : Workspace) (uri : Uri) : Bool :=
  (w.find? uri).isSome

/-- The text of a document. -/
def text? (w : Workspace) (uri : Uri) : Option String :=
  (w.find? uri).map (·.buffer.text)

/-- Ask a question about the outline of a document. -/
def consult {α : Type} (w : Workspace) (uri : Uri) (ask : Outline → α) :
    Except WorkspaceError (Answered Workspace α) :=
  match w.find? uri with
  | none => .error (.unknownDocument uri)
  | some d =>
      let a := d.consult ask
      .ok { value := a.value, reading := a.reading, state := w.put uri a.state }

/-- The outline of a document. -/
def outline (w : Workspace) (uri : Uri) : Except WorkspaceError (Answered Workspace Outline) :=
  w.consult uri id

/-- Where the key stands that the value on the line of `p` points to. -/
def definition (w : Workspace) (uri : Uri) (p : Position) :
    Except WorkspaceError (Answered Workspace (Option Location)) :=
  w.consult uri fun o => (o.definition? p.line.toNat).map (⟨uri, ·⟩)

/-- Where the values stand that point to the key on the line of `p`. -/
def references (w : Workspace) (uri : Uri) (p : Position) :
    Except WorkspaceError (Answered Workspace (List Location)) :=
  w.consult uri fun o => (o.references p.line.toNat).map (⟨uri, ·⟩)

end Workspace

end DocNav
