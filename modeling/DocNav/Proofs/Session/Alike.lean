/-
  DocNav.Proofs.Session.Alike
  ───────────────────────────
  Sessions that an editor cannot tell apart.

  Whether a document has been read already does not show in any answer.
  Two sessions are alike if they are in the same phase and their documents
  are equal once all of them have been read.  On alike sessions every
  message shows the same to the editor and leaves sessions that are alike
  again (`Alike.handle`); the log may differ, since it tells when a text
  is read.
-/
import DocNav.Session.Basic
import DocNav.Proofs.Workspace.Coherence

namespace DocNav

open Protocol

/-! ## §1. Documents. -/

namespace Document

/-- The document once it has been read. -/
def asRead (d : Document) : Document :=
  { d with cached := some d.outline }

theorem outline_congr {d d' : Document} (h : d.asRead = d'.asRead) : d.outline = d'.outline := by
  injection h with _ _ hcached
  injection hcached

/-- What a batch of edits leaves depends on the text alone. -/
theorem change_congr {d d' : Document} (h : d.asRead = d'.asRead) (version : Int32)
    (edits : List Edit) : d.change version edits = d'.change version edits := by
  injection h with hbuffer
  rw [change_eq, change_eq, hbuffer]

end Document

namespace Question

/-- The place that the question is about. -/
def place : Question → Place
  | .definition p => p
  | .references p => p

/-- The answer, by the outline of the document. -/
def ask : Question → Outline → Answer
  | .definition p => fun o =>
      .definition ((o.definition? p.position.line.toNat).map (Location.mk p.uri))
  | .references p => fun o =>
      .references ((o.references p.position.line.toNat).map (Location.mk p.uri))

end Question

/-! ## §2. Workspaces. -/

namespace Workspace

/-- The documents are equal once they have been read. -/
def Alike (w w' : Workspace) : Prop :=
  ∀ uri, (w.find? uri).map Document.asRead = (w'.find? uri).map Document.asRead

theorem Alike.refl (w : Workspace) : w.Alike w := fun _ => rfl

theorem Alike.symm {w w' : Workspace} (h : w.Alike w') : w'.Alike w := fun uri => (h uri).symm

theorem Alike.trans {w w' w'' : Workspace} (h : w.Alike w') (h' : w'.Alike w'') : w.Alike w'' :=
  fun uri => (h uri).trans (h' uri)

/-- Where one has a document open, the other has a document like it. -/
theorem Alike.find?_cases {w w' : Workspace} (h : w.Alike w') (uri : Uri) :
    (w.find? uri = none ∧ w'.find? uri = none)
    ∨ ∃ d d', w.find? uri = some d ∧ w'.find? uri = some d' ∧ d.asRead = d'.asRead := by
  have hfind := h uri
  cases hd : w.find? uri with
  | none =>
    rw [hd, Option.map_none, eq_comm, Option.map_eq_none_iff] at hfind
    exact .inl ⟨rfl, hfind⟩
  | some d =>
    rw [hd, Option.map_some, eq_comm, Option.map_eq_some_iff] at hfind
    obtain ⟨d', hd', hread⟩ := hfind
    exact .inr ⟨d, d', rfl, hd', hread.symm⟩

theorem Alike.put {w w' : Workspace} (h : w.Alike w') (uri : Uri) {d d' : Document}
    (hd : d.asRead = d'.asRead) : (w.put uri d).Alike (w'.put uri d') := by
  intro other
  rw [find?_put, find?_put]
  split
  · rw [Option.map_some, Option.map_some, hd]
  · exact h other

theorem Alike.closeDocument {w w' : Workspace} (h : w.Alike w') (uri : Uri) :
    (w.closeDocument uri).Alike (w'.closeDocument uri) := by
  intro other
  rw [find?_closeDocument, find?_closeDocument]
  split
  · rfl
  · exact h other

/-- A batch is refused by both for one reason, or made in both. -/
theorem Alike.change {w w' : Workspace} (h : w.Alike w') (uri : Uri) (version : Int32)
    (edits : List Edit) :
    (∃ e, w.change uri version edits = .error e ∧ w'.change uri version edits = .error e)
    ∨ ∃ v v', w.change uri version edits = .ok v ∧ w'.change uri version edits = .ok v'
        ∧ v.Alike v' := by
  unfold Workspace.change
  -- Either neither has the document open, or both have one with the same text.
  obtain ⟨hd, hd'⟩ | ⟨d, d', hd, hd', hread⟩ := h.find?_cases uri
  · rw [hd, hd']
    exact .inl ⟨_, rfl, rfl⟩
  · rw [hd, hd']
    dsimp only
    rw [Document.change_congr hread]
    cases d'.change version edits with
    | error e => exact .inl ⟨_, rfl, rfl⟩
    | ok new => exact .inr ⟨_, _, rfl, rfl, h.put uri rfl⟩

/-- Whether a document has been read does not show. -/
theorem alike_put_asRead {w : Workspace} {uri : Uri} {d : Document} (h : w.find? uri = some d) :
    w.Alike (w.put uri d.asRead) := by
  intro other
  rw [find?_put]
  split
  next huri =>
    rw [← w.find?_congr huri, h]
    rfl
  next => rfl

/-! ## §3. What the server does for an editor. -/

theorem Alike.note {w w' : Workspace} (h : w.Alike w') (n : Notification) :
    (w.note n).1.notices = (w'.note n).1.notices ∧ (w.note n).2.Alike (w'.note n).2 := by
  cases n with
  | started => exact ⟨rfl, h⟩
  | opened d => exact ⟨rfl, h.put d.uri rfl⟩
  | changed c =>
    obtain ⟨e, he, he'⟩ | ⟨v, v', hv, hv', halike⟩ := h.change c.uri c.version c.edits
    · simp only [Workspace.note, he, he']
      exact ⟨trivial, h⟩
    · simp only [Workspace.note, hv, hv']
      exact ⟨trivial, halike⟩
  | closed uri => exact ⟨rfl, h.closeDocument uri⟩

/-- A question about a document that is not open is refused. -/
theorem answer_of_find?_eq_none {w : Workspace} {q : Question}
    (h : w.find? q.place.uri = none) :
    (w.answer q).1 = .error (.unknownDocument q.place.uri) ∧ (w.answer q).2.2 = w := by
  cases q with
  | definition p =>
    have hfind : w.find? p.uri = none := h
    simp only [Workspace.answer, Workspace.definition, Workspace.consult, hfind]
    exact ⟨rfl, trivial⟩
  | references p =>
    have hfind : w.find? p.uri = none := h
    simp only [Workspace.answer, Workspace.references, Workspace.consult, hfind]
    exact ⟨rfl, trivial⟩

/-- A question about an open document is answered by its outline, and
leaves the document read. -/
theorem answer_of_find?_eq_some {w : Workspace} {q : Question} {d : Document}
    (h : w.find? q.place.uri = some d) :
    (w.answer q).1 = .ok (q.ask d.outline)
      ∧ (w.answer q).2.2 = w.put q.place.uri d.asRead := by
  cases q with
  | definition p =>
    have hfind : w.find? p.uri = some d := h
    simp only [Workspace.answer, Workspace.definition, Workspace.consult, hfind,
      Document.consult_value, Document.consult_state]
    exact ⟨rfl, rfl⟩
  | references p =>
    have hfind : w.find? p.uri = some d := h
    simp only [Workspace.answer, Workspace.references, Workspace.consult, hfind,
      Document.consult_value, Document.consult_state]
    exact ⟨rfl, rfl⟩

theorem Alike.answer {w w' : Workspace} (h : w.Alike w') (q : Question) :
    (w.answer q).1 = (w'.answer q).1 ∧ (w.answer q).2.2.Alike (w'.answer q).2.2 := by
  obtain ⟨hd, hd'⟩ | ⟨d, d', hd, hd', hread⟩ := h.find?_cases q.place.uri
  · obtain ⟨hvalue, hleft⟩ := answer_of_find?_eq_none hd
    obtain ⟨hvalue', hleft'⟩ := answer_of_find?_eq_none hd'
    rw [hvalue, hvalue', hleft, hleft']
    exact ⟨rfl, h⟩
  · obtain ⟨hvalue, hleft⟩ := answer_of_find?_eq_some hd
    obtain ⟨hvalue', hleft'⟩ := answer_of_find?_eq_some hd'
    rw [hvalue, hvalue', hleft, hleft', Document.outline_congr hread, hread]
    exact ⟨rfl, h.put q.place.uri rfl⟩

theorem alike_answer (w : Workspace) (q : Question) : w.Alike (w.answer q).2.2 := by
  cases hd : w.find? q.place.uri with
  | none =>
    rw [(answer_of_find?_eq_none hd).2]
    exact .refl w
  | some d =>
    rw [(answer_of_find?_eq_some hd).2]
    exact alike_put_asRead hd

end Workspace

/-! ## §4. Sessions. -/

/-- What the editor is shown: the response, and the notices. -/
def Reply.shown (r : Reply) : Option Response × List Notice :=
  (r.response, r.told.notices)

namespace Session

/-- The sessions are in one phase and have documents that are alike. -/
structure Alike (s s' : Session) : Prop where
  phase : s.phase = s'.phase
  workspace : s.workspace.Alike s'.workspace

theorem Alike.refl (s : Session) : s.Alike s := ⟨rfl, .refl _⟩

theorem Alike.symm {s s' : Session} (h : s.Alike s') : s'.Alike s :=
  ⟨h.phase.symm, h.workspace.symm⟩

theorem Alike.trans {s s' s'' : Session} (h : s.Alike s') (h' : s'.Alike s'') : s.Alike s'' :=
  ⟨h.phase.trans h'.phase, h.workspace.trans h'.workspace⟩

/-- What comes of a message shows the same, and the sessions left are alike. -/
structure Agree (a b : Reply × Session) : Prop where
  shown : a.1.shown = b.1.shown
  left : a.2.Alike b.2

/-- The outcome of a request, by what the workspace answers. -/
def outcome : Except WorkspaceError Answer → Except Fault Json
  | .ok a => .ok a.toJson
  | .error e => .error (.invalidParams e.message)

theorem serve_of_question {m : Method} {params : Option Json} {q : Question}
    (hm : m.isRequest = true) (hq : question? m params = .ok q) (s : Session)
    (id : Option Json) :
    s.serve m id params
      = (⟨id.map (⟨·, outcome (s.workspace.answer q).1⟩), .log (s.workspace.answer q).2.1⟩,
          { s with workspace := (s.workspace.answer q).2.2 }) := by
  unfold Session.serve
  rw [if_pos hm, hq]
  dsimp only
  generalize s.workspace.answer q = answer
  rcases answer with ⟨_ | _, events, w⟩ <;> rfl

theorem serve_of_notification {m : Method} {params : Option Json} {n : Notification}
    (hm : m.isRequest = false) (hn : notification? m params = .ok (some n)) (s : Session)
    (id : Option Json) :
    s.serve m id params
      = (⟨none, (s.workspace.note n).1⟩, { s with workspace := (s.workspace.note n).2 }) := by
  unfold Session.serve
  rw [if_neg (by simp [hm]), hn]

/-- What cannot be read as a question or a notification has nothing to do
with the documents. -/
theorem Alike.serve {s s' : Session} (h : s.Alike s') (m : Method) (id params : Option Json) :
    Agree (s.serve m id params) (s'.serve m id params) := by
  cases hm : m.isRequest with
  | true =>
    cases hq : question? m params with
    | error f =>
      simp only [Session.serve, hm, hq, if_true]
      exact ⟨rfl, h⟩
    | ok q =>
      obtain ⟨hanswer, halike⟩ := h.workspace.answer q
      rw [serve_of_question hm hq, serve_of_question hm hq, hanswer]
      exact ⟨rfl, h.phase, halike⟩
  | false =>
    rcases hn : notification? m params with f | _ | n
    · simp only [Session.serve, hm, hn]
      exact ⟨rfl, h⟩
    · simp only [Session.serve, hm, hn]
      exact ⟨rfl, h⟩
    · obtain ⟨hnotices, halike⟩ := h.workspace.note n
      rw [serve_of_notification hm hn, serve_of_notification hm hn]
      refine ⟨?_, h.phase, halike⟩
      -- The events may differ, but they are not shown.
      unfold Reply.shown
      rw [hnotices]

theorem Alike.start {s s' : Session} (h : s.Alike s') (id params : Option Json) :
    Agree (s.start id params) (s'.start id params) := by
  unfold Session.start
  cases id with
  | none => exact ⟨rfl, h⟩
  | some id =>
    cases decodeParams Protocol.hello params with
    | error f => exact ⟨rfl, h⟩
    | ok hello => exact ⟨rfl, rfl, h.workspace⟩

theorem Alike.shutDown {s s' : Session} (h : s.Alike s') (id params : Option Json) :
    Agree (s.shutDown id params) (s'.shutDown id params) := by
  unfold Session.shutDown
  cases id with
  | none => exact ⟨rfl, rfl, h.workspace⟩
  | some id =>
    cases noParams params with
    | error f => exact ⟨rfl, rfl, h.workspace⟩
    | ok _ => exact ⟨rfl, rfl, h.workspace⟩

theorem Alike.dispatch {s s' : Session} (h : s.Alike s') (m : Method) (id params : Option Json) :
    Agree (s.dispatch m id params) (s'.dispatch m id params) := by
  unfold Session.dispatch
  rw [← h.phase]
  split
  next => exact ⟨rfl, rfl, h.workspace⟩
  next => exact h.start id params
  next => exact ⟨rfl, h⟩
  next => exact h.shutDown id params
  next => exact ⟨rfl, h⟩
  next =>
    split
    · exact ⟨rfl, h⟩
    · exact ⟨rfl, h⟩
    · exact h.serve _ _ _
  next => exact ⟨rfl, h⟩

/-- On alike sessions a message shows the same and leaves alike sessions. -/
theorem Alike.handle {s s' : Session} (h : s.Alike s') (m : Message) :
    (s.handle m).1.map Reply.shown = (s'.handle m).1.map Reply.shown
      ∧ (s.handle m).2.Alike (s'.handle m).2 := by
  unfold Session.handle
  rw [← h.phase]
  by_cases hphase : s.phase = .exited
  · rw [if_pos hphase, if_pos hphase]
    exact ⟨rfl, h⟩
  · rw [if_neg hphase, if_neg hphase]
    cases Method.ofName? m.method with
    | none => cases isInternal m.method <;> exact ⟨rfl, h⟩
    | some method =>
      obtain ⟨hshown, halike⟩ := h.dispatch method m.id m.params
      exact ⟨congrArg Except.ok hshown, halike⟩

end Session

end DocNav
