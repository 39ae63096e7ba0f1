/-
  DocNav.Workspace.Operation
  ──────────────────────────
  Everything that can be done with a workspace as one kind of value, so
  that a history is a list.

  An operation concerns one document.  It has an outcome, it may have
  taken a reading of the text, and it leaves a workspace.
-/
import DocNav.Workspace

namespace DocNav

/-- What can be done with a document. -/
inductive Operation where
  | openDocument (text : String) (version : Int32)
  | closeDocument
  | change (version : Int32) (edits : List Edit)
  | outline
  | text
  | isOpen
  | definition (p : Position)
  | references (p : Position)
  deriving Repr, DecidableEq

/-- What comes of an operation. -/
inductive Outcome where
  | done
  | failed (e : WorkspaceError)
  | outline (o : Outline)
  | text (t : Option String)
  | isOpen (b : Bool)
  | definition (found : Option Location)
  | references (found : List Location)
  deriving DecidableEq

/-- An operation on the document at an address. -/
structure Step where
  uri : Uri
  operation : Operation
  deriving Repr, DecidableEq

/-- An outcome and the reading of the text that it took, if any. -/
structure Performed where
  outcome : Outcome
  reading : Option Reading
  deriving DecidableEq

namespace Performed

/-- An outcome that took no reading. -/
def plain (o : Outcome) : Performed :=
  ⟨o, none⟩

end Performed

namespace Workspace

/-- The outcome of a question about an outline. -/
def ofAnswered {α : Type} (w : Workspace) (outcome : α → Outcome) :
    Except WorkspaceError (Answered Workspace α) → Performed × Workspace
  | .ok a => (⟨outcome a.value, a.reading⟩, a.state)
  | .error e => (.plain (.failed e), w)

/-- Perform an operation. -/
def perform (w : Workspace) (s : Step) : Performed × Workspace :=
  match s.operation with
  | .openDocument text version => (.plain .done, w.openDocument s.uri text version)
  | .closeDocument => (.plain .done, w.closeDocument s.uri)
  | .change version edits =>
      match w.change s.uri version edits with
      | .ok w' => (.plain .done, w')
      | .error e => (.plain (.failed e), w)
  | .outline => w.ofAnswered .outline (w.outline s.uri)
  | .text => (.plain (.text (w.text? s.uri)), w)
  | .isOpen => (.plain (.isOpen (w.isOpen s.uri)), w)
  | .definition p => w.ofAnswered .definition (w.definition s.uri p)
  | .references p => w.ofAnswered .references (w.references s.uri p)

/-- Perform a history, with what came of each step. -/
def run (w : Workspace) : List Step → List Performed × Workspace
  | [] => ([], w)
  | s :: steps =>
      let (p, w') := w.perform s
      let (ps, w'') := run w' steps
      (p :: ps, w'')

end Workspace

end DocNav
