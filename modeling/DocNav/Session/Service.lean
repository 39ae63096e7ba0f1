/-
  DocNav.Session.Service
  ──────────────────────
  What the server does for an editor once a session has been started:
  notifications change the open documents, requests ask about them.

  A change that fails leaves the documents as they were, and the editor is
  told.  A question about a document that is not open is refused.
-/
import DocNav.Session.Event
import DocNav.Protocol.Message
import DocNav.Protocol.Params

namespace DocNav

open Protocol

/-- What is to be told: to the log, and to the editor. -/
structure Told where
  events : List Event
  notices : List Notice
  deriving Repr, DecidableEq

/-- Nothing to be told to the editor. -/
def Told.log (events : List Event) : Told :=
  ⟨events, []⟩

/-! ## §1. Notifications. -/

/-- What an editor says about its documents. -/
inductive Notification where
  /-- The session has been started. -/
  | started
  | opened (d : Opened)
  | changed (c : Changed)
  | closed (uri : Uri)
  deriving Repr, DecidableEq

/-- The greeting of the server. -/
def greeting : Notice :=
  ⟨.info, "OpenAPI language server initialized"⟩

/-- The notice about a change that could not be made. -/
def changeNotice (uri : Uri) (e : WorkspaceError) : Notice :=
  ⟨.error, s!"failed to apply changes to {uri.text}: {e.message}"⟩

/-- Take note of a notification. -/
def Workspace.note (w : Workspace) : Notification → Told × Workspace
  | .started => (⟨[], [greeting]⟩, w)
  | .opened d => (.log [.opened d.uri d.version], w.openDocument d.uri d.text d.version)
  | .changed c =>
      let came := Event.changed c.uri c.version c.edits.length
      match w.change c.uri c.version c.edits with
      | .ok w' => (.log [came], w')
      | .error e => (⟨[came, .changeFailed c.uri e], [changeNotice c.uri e]⟩, w)
  | .closed uri => (.log [.closed uri], w.closeDocument uri)

/-! ## §2. Requests. -/

/-- What an editor asks about its documents. -/
inductive Question where
  | definition (p : Place)
  | references (p : Place)
  deriving Repr, DecidableEq

/-- The answer to a question. -/
inductive Answer where
  | definition (found : Option Location)
  | references (found : List Location)
  deriving Repr, DecidableEq

/-- The log of a question that was answered: the reading it took comes
before the answer. -/
def answered (reading : Option Reading) (event : Event) : List Event :=
  (reading.map Event.parsed).toList ++ [event]

/-- Answer a question. -/
def Workspace.answer (w : Workspace) (q : Question) :
    Except WorkspaceError Answer × List Event × Workspace :=
  match q with
  | .definition p =>
      match w.definition p.uri p.position with
      | .ok a =>
          (.ok (.definition a.value),
           answered a.reading (.definition p.uri p.position.line a.value.isSome), a.state)
      | .error e => (.error e, [.queryFailed e], w)
  | .references p =>
      match w.references p.uri p.position with
      | .ok a =>
          (.ok (.references a.value),
           answered a.reading (.references p.uri p.position.line a.value.length), a.state)
      | .error e => (.error e, [.queryFailed e], w)

/-! ## §3. Answers as values. -/

/-- A position as a value. -/
def Position.toJson (p : Position) : Json :=
  .obj [("character", .nat p.character.toNat), ("line", .nat p.line.toNat)]

/-- A range as a value. -/
def Range.toJson (r : Range) : Json :=
  .obj [("end", r.stop.toJson), ("start", r.start.toJson)]

/-- A location as a value. -/
def Location.toJson (l : Location) : Json :=
  .obj [("range", l.range.toJson), ("uri", .str l.uri.text)]

/-- An answer as a value. -/
def Answer.toJson : Answer → Json
  | .definition found => .ofOption (found.map Location.toJson)
  | .references found => .arr (found.map Location.toJson)

end DocNav
