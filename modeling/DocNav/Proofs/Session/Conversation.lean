/-
  DocNav.Proofs.Session.Conversation
  ──────────────────────────────────
  What an editor sees of a conversation.

  Questions and refused changes leave a session as it was, but for what
  has been read, so nothing that comes later shows whether they were asked
  or tried (`exchanges_kept`).  Whether a change is refused does show, as a
  notice of an error; and a question has a result exactly if its document
  is open.  Which documents are open can be told from the messages that
  came before (`isOpen_of_getElem?_exchanges`).
-/
import DocNav.Proofs.Session.Alike

namespace DocNav

open Protocol

/-! ## §1. Changes that are refused. -/

/-- Some edit of the batch cannot be made in the text that the edits before
it leave. -/
def Buffer.Fails (b : Buffer) (edits : List Edit) : Prop :=
  ∃ front e back b' err,
    edits = front ++ e :: back ∧ b.applyAll front = .ok b' ∧ b'.apply e = .error err

theorem Buffer.fails_iff {b : Buffer} {edits : List Edit} :
    b.Fails edits ↔ ∃ err, b.applyAll edits = .error err := by
  constructor
  · rintro ⟨front, e, back, b', err, hedits, hfront, he⟩
    exact ⟨err, applyAll_eq_error_iff.2 ⟨front, e, back, b', hedits, hfront, he⟩⟩
  · rintro ⟨err, h⟩
    obtain ⟨front, e, back, b', hedits, hfront, he⟩ := applyAll_eq_error_iff.1 h
    exact ⟨front, e, back, b', err, hedits, hfront, he⟩

namespace Workspace

/-- The document is not open, or some edit of the batch fails. -/
def Refuses (w : Workspace) (c : Changed) : Prop :=
  w.isOpen c.uri = false ∨ ∃ d, w.find? c.uri = some d ∧ d.buffer.Fails c.edits

theorem refuses_iff {w : Workspace} {c : Changed} :
    w.Refuses c ↔ ∃ e, w.change c.uri c.version c.edits = .error e := by
  unfold Refuses isOpen Workspace.change
  cases w.find? c.uri with
  | none => simp
  | some d =>
    dsimp only
    rw [Document.change_eq]
    cases hbuffer : d.buffer.applyAll c.edits <;> simp [Buffer.fails_iff, hbuffer]

/-- A change that is refused leaves the documents as they were, and the
editor is told of an error. -/
theorem note_of_refuses {w : Workspace} {c : Changed} (h : w.Refuses c) :
    (∃ n, (w.note (.changed c)).1.notices = [n] ∧ n.severity = .error)
      ∧ (w.note (.changed c)).2 = w := by
  obtain ⟨e, he⟩ := refuses_iff.1 h
  simp only [Workspace.note, he]
  exact ⟨⟨changeNotice c.uri e, rfl, rfl⟩, trivial⟩

theorem notices_of_not_refuses {w : Workspace} {c : Changed} (h : ¬ w.Refuses c) :
    (w.note (.changed c)).1.notices = [] := by
  cases hchange : w.change c.uri c.version c.edits with
  | error e => exact absurd (refuses_iff.2 ⟨e, hchange⟩) h
  | ok w' =>
    simp only [Workspace.note, hchange]
    rfl

theorem isOpen_openDocument (w : Workspace) (uri other : Uri) (text : String) (version : Int32) :
    (w.openDocument uri text version).isOpen other = (uri.text == other.text || w.isOpen other) := by
  unfold isOpen openDocument
  rw [find?_put]
  by_cases h : uri.text = other.text
  · simp [h]
  · simp [h]

theorem isOpen_closeDocument (w : Workspace) (uri other : Uri) :
    (w.closeDocument uri).isOpen other = (uri.text != other.text && w.isOpen other) := by
  unfold isOpen
  rw [find?_closeDocument]
  by_cases h : uri.text = other.text
  · simp [h]
  · simp [h]

theorem exists_put_of_change {w w' : Workspace} {uri : Uri} {version : Int32} {edits : List Edit}
    (h : w.change uri version edits = .ok w') :
    ∃ d d', w.find? uri = some d ∧ w' = w.put uri d' := by
  unfold Workspace.change at h
  split at h
  next => cases h
  next d hfind =>
    split at h
    next => cases h
    next d' _ => exact ⟨d, d', hfind, (Except.ok.inj h).symm⟩

/-- A change opens no document and closes none, whether it is refused or not. -/
theorem isOpen_note_changed (w : Workspace) (c : Changed) (other : Uri) :
    (w.note (.changed c)).2.isOpen other = w.isOpen other := by
  cases hchange : w.change c.uri c.version c.edits with
  | error e => simp only [Workspace.note, hchange]
  | ok w' =>
    simp only [Workspace.note, hchange]
    obtain ⟨d, d', hfind, rfl⟩ := exists_put_of_change hchange
    unfold isOpen
    rw [find?_put]
    by_cases h : c.uri.text = other.text
    · rw [if_pos h, ← w.find?_congr h, hfind]
      rfl
    · rw [if_neg h]

theorem Alike.isOpen_eq {w w' : Workspace} (h : w.Alike w') (uri : Uri) :
    w'.isOpen uri = w.isOpen uri := by
  unfold isOpen
  obtain ⟨hd, hd'⟩ | ⟨d, d', hd, hd', -⟩ := h.find?_cases uri
  · rw [hd, hd']
  · rw [hd, hd']
    rfl

end Workspace

/-! ## §2. Messages about documents. -/

/-- The names of the methods that are about documents. -/
def documentMethods : List String :=
  ["textDocument/didOpen", "textDocument/didChange", "textDocument/didClose",
    "textDocument/definition", "textDocument/references"]

namespace Protocol

/-- The methods that are about documents. -/
def Method.aboutDocuments : List Method :=
  [.didOpen, .didChange, .didClose, .definition, .references]

theorem Method.ofName?_documentMethods {name : String} (h : name ∈ documentMethods) :
    ∃ method ∈ aboutDocuments, ofName? name = some method := by
  simp only [documentMethods, List.mem_cons, List.not_mem_nil, or_false] at h
  obtain rfl | rfl | rfl | rfl | rfl := h
  · exact ⟨.didOpen, by decide, rfl⟩
  · exact ⟨.didChange, by decide, rfl⟩
  · exact ⟨.didClose, by decide, rfl⟩
  · exact ⟨.definition, by decide, rfl⟩
  · exact ⟨.references, by decide, rfl⟩

namespace Message

/-- The message asks a question, well put or not. -/
def IsQuery (m : Message) : Prop :=
  m.method = "textDocument/definition" ∨ m.method = "textDocument/references"

/-- The message is the notification of a change. -/
structure Changes (m : Message) (c : Changed) : Prop where
  method : m.method = "textDocument/didChange"
  id : m.id = none
  params : decodeParams Protocol.changed m.params = .ok c

/-- The message is the request of a question. -/
inductive Asks (m : Message) (id : Json) : Question → Prop where
  | definition {p : Place} (hmethod : m.method = "textDocument/definition") (hid : m.id = some id)
      (hparams : decodeParams definitionPlace m.params = .ok p) : Asks m id (.definition p)
  | references {p : Place} (hmethod : m.method = "textDocument/references") (hid : m.id = some id)
      (hparams : decodeParams referencePlace m.params = .ok p) : Asks m id (.references p)

/-- Whether a document is open after a message, by the message alone: a
notification may open it or close it, and nothing else does. -/
def opens (uri : Uri) (before : Bool) (m : Message) : Bool :=
  if m.id.isSome then before
  else if m.method = "textDocument/didOpen" then
    match decodeParams Protocol.opened m.params with
    | .ok d => d.uri.text == uri.text || before
    | .error _ => before
  else if m.method = "textDocument/didClose" then
    match decodeParams Protocol.closed m.params with
    | .ok other => other.text != uri.text && before
    | .error _ => before
  else before

theorem opens_of_ne (uri : Uri) (before : Bool) {m : Message}
    (hopen : m.method ≠ "textDocument/didOpen") (hclose : m.method ≠ "textDocument/didClose") :
    m.opens uri before = before := by
  unfold opens
  rw [if_neg hopen, if_neg hclose, ite_self]

/-- Whether a document is open after some messages. -/
def opensAll (uri : Uri) (before : Bool) (ms : List Message) : Bool :=
  ms.foldl (opens uri) before

end Message

end Protocol

namespace Session

theorem handle_of_ofName? {s : Session} {m : Message} {method : Method}
    (hs : s.phase = .serving) (hm : Method.ofName? m.method = some method) :
    s.handle m
      = (.ok (s.dispatch method m.id m.params).1, (s.dispatch method m.id m.params).2) := by
  unfold Session.handle
  rw [if_neg (by rw [hs]; decide), hm]

/-- A session that serves takes requests with an id and notifications
without one. -/
theorem dispatch_of_serving {s : Session} (hs : s.phase = .serving) {method : Method}
    (hm : method ∈ Method.aboutDocuments) (id params : Option Json) :
    s.dispatch method id params = match method.isRequest, id with
      | true, none => (.nothing, s)
      | false, some _ => (.fault id .invalidRequest [], s)
      | _, _ => s.serve method id params := by
  unfold Session.dispatch
  rw [hs]
  simp only [Method.aboutDocuments, List.mem_cons, List.not_mem_nil, or_false] at hm
  obtain rfl | rfl | rfl | rfl | rfl := hm <;> rfl

theorem phase_serve (s : Session) (m : Method) (id params : Option Json) :
    (s.serve m id params).2.phase = s.phase := by
  unfold Session.serve
  split
  · split
    · rfl
    · split <;> rfl
  · split <;> rfl

theorem alike_serve_of_isRequest (s : Session) {m : Method} (hm : m.isRequest = true)
    (id params : Option Json) : s.Alike (s.serve m id params).2 := by
  cases hq : question? m params with
  | error f =>
    simp only [Session.serve, hm, hq, if_true]
    exact .refl s
  | ok q =>
    rw [serve_of_question hm hq]
    exact ⟨rfl, s.workspace.alike_answer q⟩

/-- Messages about documents do not end the session. -/
theorem phase_handle {s : Session} {m : Message} (hs : s.phase = .serving)
    (hm : m.method ∈ documentMethods) : (s.handle m).2.phase = .serving := by
  obtain ⟨method, hmethod, hname⟩ := Method.ofName?_documentMethods hm
  rw [handle_of_ofName? hs hname, dispatch_of_serving hs hmethod]
  split
  · exact hs
  · exact hs
  · exact (s.phase_serve _ _ _).trans hs

/-- A question leaves the session as it was, but for what has been read. -/
theorem alike_handle_of_isQuery {s : Session} {m : Message} (hs : s.phase = .serving)
    (hm : m.IsQuery) : s.Alike (s.handle m).2 := by
  have hquery : ∃ method ∈ Method.aboutDocuments,
      Method.ofName? m.method = some method ∧ method.isRequest = true := by
    obtain hm | hm := hm
    · exact ⟨.definition, by decide, by rw [hm]; rfl, rfl⟩
    · exact ⟨.references, by decide, by rw [hm]; rfl, rfl⟩
  obtain ⟨method, hmethod, hname, hrequest⟩ := hquery
  -- Without an id it is passed over, and otherwise it is served as far as it can be read.
  rw [handle_of_ofName? hs hname, dispatch_of_serving hs hmethod]
  split
  · exact .refl s
  · exact .refl s
  · exact s.alike_serve_of_isRequest hrequest _ _

theorem handle_of_changes {s : Session} {m : Message} {c : Changed} (hs : s.phase = .serving)
    (hm : m.Changes c) :
    s.handle m = (.ok ⟨none, (s.workspace.note (.changed c)).1⟩,
      { s with workspace := (s.workspace.note (.changed c)).2 }) := by
  have hname : Method.ofName? m.method = some .didChange := by
    rw [hm.method]
    rfl
  have hnote : notification? .didChange m.params = .ok (some (.changed c)) := by
    unfold notification?
    rw [hm.params]
    rfl
  rw [handle_of_ofName? hs hname, dispatch_of_serving hs (by decide), hm.id]
  exact congrArg (fun r : Reply × Session => (Except.ok r.1, r.2))
    (serve_of_notification rfl hnote s none)

/-- A notification is taken note of as far as it can be read; one that is sent
as a request is not. -/
theorem workspace_handle {s : Session} {m : Message} {method : Method} (hs : s.phase = .serving)
    (hname : Method.ofName? m.method = some method) (hmethod : method ∈ Method.aboutDocuments)
    (hnotified : method.isRequest = false) :
    (s.handle m).2.workspace
      = if m.id.isSome then s.workspace
        else match notification? method m.params with
          | .ok (some n) => (s.workspace.note n).2
          | _ => s.workspace := by
  rw [handle_of_ofName? hs hname, dispatch_of_serving hs hmethod, hnotified]
  cases m.id with
  | some id => rfl
  | none =>
    show (s.serve method none m.params).2.workspace = _
    unfold Session.serve
    rw [if_neg (by rw [hnotified]; decide), if_neg (by decide)]
    cases notification? method m.params with
    | error f => rfl
    | ok n => cases n <;> rfl

/-- Which documents are open after a message shows from the message. -/
theorem isOpen_handle {s : Session} {m : Message} (hs : s.phase = .serving)
    (hm : m.method ∈ documentMethods) (uri : Uri) :
    (s.handle m).2.workspace.isOpen uri = m.opens uri (s.workspace.isOpen uri) := by
  simp only [documentMethods, List.mem_cons, List.not_mem_nil, or_false] at hm
  obtain hm | hm | hm | hm | hm := hm
  · have hname : Method.ofName? m.method = some .didOpen := by
      rw [hm]
      rfl
    rw [workspace_handle hs hname (by decide) rfl]
    unfold Message.opens notification?
    by_cases hid : m.id.isSome = true
    · rw [if_pos hid, if_pos hid]
    · rw [if_neg hid, if_neg hid, if_pos hm]
      cases decodeParams Protocol.opened m.params with
      | error f => rfl
      | ok d => exact s.workspace.isOpen_openDocument d.uri uri d.text d.version
  · have hname : Method.ofName? m.method = some .didChange := by
      rw [hm]
      rfl
    rw [workspace_handle hs hname (by decide) rfl,
      Message.opens_of_ne uri _ (by rw [hm]; decide) (by rw [hm]; decide)]
    unfold notification?
    by_cases hid : m.id.isSome = true
    · rw [if_pos hid]
    · rw [if_neg hid]
      cases decodeParams Protocol.changed m.params with
      | error f => rfl
      | ok c => exact s.workspace.isOpen_note_changed c uri
  · have hname : Method.ofName? m.method = some .didClose := by
      rw [hm]
      rfl
    rw [workspace_handle hs hname (by decide) rfl]
    unfold Message.opens notification?
    by_cases hid : m.id.isSome = true
    · rw [if_pos hid, if_pos hid]
    · rw [if_neg hid, if_neg hid, hm, if_neg (by decide), if_pos rfl]
      cases decodeParams Protocol.closed m.params with
      | error f => rfl
      | ok other => exact s.workspace.isOpen_closeDocument other uri
  · rw [Message.opens_of_ne uri _ (by rw [hm]; decide) (by rw [hm]; decide)]
    exact (alike_handle_of_isQuery hs (.inl hm)).2.isOpen_eq uri
  · rw [Message.opens_of_ne uri _ (by rw [hm]; decide) (by rw [hm]; decide)]
    exact (alike_handle_of_isQuery hs (.inr hm)).2.isOpen_eq uri

/-- A question that is well put gets the answer of the workspace. -/
theorem shown_of_asks {s : Session} {m : Message} {id : Json} {q : Question}
    (hs : s.phase = .serving) (hm : m.Asks id q) :
    (s.handle m).1.map Reply.shown
      = .ok (some ⟨id, outcome (s.workspace.answer q).1⟩, []) := by
  have hquery : m.id = some id ∧ ∃ method ∈ Method.aboutDocuments,
      Method.ofName? m.method = some method ∧ method.isRequest = true
        ∧ question? method m.params = .ok q := by
    cases hm with
    | definition hmethod hid hparams =>
      exact ⟨hid, .definition, by decide, by rw [hmethod]; rfl, rfl,
        congrArg (Except.map _) hparams⟩
    | references hmethod hid hparams =>
      exact ⟨hid, .references, by decide, by rw [hmethod]; rfl, rfl,
        congrArg (Except.map _) hparams⟩
  obtain ⟨hid, method, hmethod, hname, hrequest, hquestion⟩ := hquery
  rw [handle_of_ofName? hs hname, dispatch_of_serving hs hmethod, hrequest, hid]
  show Except.ok (s.serve method (some id) m.params).1.shown = _
  rw [serve_of_question hrequest hquestion]
  rfl

/-- A question is refused for its parameters exactly if its document is not
open, and otherwise it has a result. -/
theorem outcome_answer (w : Workspace) (q : Question) :
    ((∃ f, outcome (w.answer q).1 = .error f ∧ f.code = -32602)
        ↔ w.isOpen q.place.uri = false)
      ∧ (w.isOpen q.place.uri = true → ∃ v, outcome (w.answer q).1 = .ok v) := by
  unfold Workspace.isOpen
  cases hd : w.find? q.place.uri with
  | none =>
    rw [(Workspace.answer_of_find?_eq_none hd).1]
    exact ⟨⟨fun _ => rfl, fun _ => ⟨_, rfl, rfl⟩⟩, fun h => absurd h (by simp)⟩
  | some d =>
    rw [(Workspace.answer_of_find?_eq_some hd).1]
    refine ⟨⟨?_, fun h => absurd h (by simp)⟩, fun _ => ⟨_, rfl⟩⟩
    rintro ⟨f, hf, -⟩
    exact absurd hf (by simp [outcome])

end Session

/-! ## §3. Conversations. -/

/-- A message, and the session that it comes in. -/
structure Exchange where
  before : Session
  message : Message

namespace Exchange

/-- The session that the message leaves. -/
def after (x : Exchange) : Session :=
  (x.before.handle x.message).2

/-- What the editor is shown. -/
def shown (x : Exchange) : Except Exited (Option Response × List Notice) :=
  (x.before.handle x.message).1.map Reply.shown

/-- The message is a question or a change that is refused. -/
def Unseen (x : Exchange) : Prop :=
  x.message.IsQuery ∨ ∃ c, x.message.Changes c ∧ x.before.workspace.Refuses c

theorem Unseen.alike {x : Exchange} (h : x.Unseen) (hs : x.before.phase = .serving) :
    x.before.Alike x.after := by
  obtain hquery | ⟨c, hchanges, hrefuses⟩ := h
  · exact Session.alike_handle_of_isQuery hs hquery
  · unfold after
    rw [Session.handle_of_changes hs hchanges, (Workspace.note_of_refuses hrefuses).2]
    exact .refl _

end Exchange

/-- The members of a list that are kept, by their place. -/
def kept {α : Type} (keep : Nat → Bool) : List α → List α
  | [] => []
  | a :: as =>
      if keep 0 then a :: kept (fun i => keep (i + 1)) as else kept (fun i => keep (i + 1)) as

namespace Session

/-- The messages of a conversation, each with the session it comes in. -/
def exchanges (s : Session) : List Message → List Exchange
  | [] => []
  | m :: ms => ⟨s, m⟩ :: exchanges (s.handle m).2 ms

/-- Each message comes in once, in its turn. -/
theorem getElem?_exchanges (s : Session) (ms : List Message) (i : Nat) :
    (s.exchanges ms)[i]?.map Exchange.message = ms[i]? := by
  induction ms generalizing s i with
  | nil => rfl
  | cons m ms ih =>
    cases i with
    | zero => rfl
    | succ i => exact ih (s.handle m).2 i

/-- Messages about documents do not end the session, so the next finds it
serving. -/
theorem phase_of_mem_exchanges {s : Session} {ms : List Message} (hs : s.phase = .serving)
    (hms : ∀ m ∈ ms, m.method ∈ documentMethods) {x : Exchange} (hx : x ∈ s.exchanges ms) :
    x.before.phase = .serving := by
  induction ms generalizing s with
  | nil => exact absurd hx (by simp [exchanges])
  | cons m ms ih =>
    obtain rfl | hx := List.mem_cons.1 hx
    · exact hs
    · exact ih (phase_handle hs (hms m List.mem_cons_self))
        (fun m' hm' => hms m' (List.mem_cons_of_mem m hm')) hx

/-- When a message comes in, the documents that are open are those that the
messages before it opened and did not close. -/
theorem isOpen_of_getElem?_exchanges {s : Session} {ms : List Message} (hs : s.phase = .serving)
    (hms : ∀ m ∈ ms, m.method ∈ documentMethods) {i : Nat} {x : Exchange}
    (hx : (s.exchanges ms)[i]? = some x) (uri : Uri) :
    x.before.workspace.isOpen uri
      = Message.opensAll uri (s.workspace.isOpen uri) (ms.take i) := by
  induction ms generalizing s i with
  | nil => cases hx
  | cons m ms ih =>
    have hm : m.method ∈ documentMethods := hms m List.mem_cons_self
    cases i with
    | zero =>
      obtain rfl := Option.some.inj hx
      rfl
    | succ i =>
      have hrest : ∀ m' ∈ ms, m'.method ∈ documentMethods := by
        intro m' hm'
        exact hms m' (List.mem_cons_of_mem m hm')
      rw [ih (phase_handle hs hm) hrest hx, isOpen_handle hs hm]
      rfl

/-- Messages that leave the session as it was, but for what has been read,
may be left out of a conversation: the others show what they showed. -/
theorem exchanges_kept {s s' : Session} (h : s.Alike s') (keep : Nat → Bool) (ms : List Message)
    (hout : ∀ i x, (s.exchanges ms)[i]? = some x → keep i = false → x.before.Alike x.after) :
    (s'.exchanges (kept keep ms)).map Exchange.shown
      = kept keep ((s.exchanges ms).map Exchange.shown) := by
  -- One session is told everything and the other what is kept; they stay alike.
  induction ms generalizing s s' keep with
  | nil => rfl
  | cons m ms ih =>
    have hrest : ∀ i x, ((s.handle m).2.exchanges ms)[i]? = some x → keep (i + 1) = false →
        x.before.Alike x.after := fun i x => hout (i + 1) x
    show _ = kept keep (Exchange.shown ⟨s, m⟩ :: ((s.handle m).2.exchanges ms).map Exchange.shown)
    unfold kept
    cases hkeep : keep 0 with
    | true =>
      obtain ⟨hshown, halike⟩ := h.handle m
      rw [if_pos rfl, if_pos rfl, ← ih halike (fun i => keep (i + 1)) hrest]
      show (s'.handle m).1.map Reply.shown :: _ = (s.handle m).1.map Reply.shown :: _
      rw [hshown]
    | false =>
      -- The session that is not told of the message is like the one it leaves.
      have halike : s.Alike (s.handle m).2 := hout 0 ⟨s, m⟩ rfl hkeep
      rw [if_neg (by simp), if_neg (by simp)]
      exact ih (halike.symm.trans h) (fun i => keep (i + 1)) hrest

/-- In a conversation about documents, any questions and any refused
changes may be left out, and every other message shows what it showed.  A
change shows one notice of an error if it is refused, and nothing
otherwise.  A question shows a fault of its parameters exactly if its
document is not open, and a result otherwise.  Which documents are open
then is told by the messages before it. -/
theorem conversation_unseen {s : Session} {ms : List Message} (hs : s.phase = .serving)
    (hms : ∀ m ∈ ms, m.method ∈ documentMethods) :
    (∀ keep : Nat → Bool,
      (∀ i x, (s.exchanges ms)[i]? = some x → keep i = false → x.Unseen) →
      (s.exchanges (kept keep ms)).map Exchange.shown
        = kept keep ((s.exchanges ms).map Exchange.shown))
    ∧ (∀ x ∈ s.exchanges ms,
        (∀ c, x.message.Changes c →
          (x.before.workspace.Refuses c →
            ∃ n, x.shown = .ok (none, [n]) ∧ n.severity = .error)
          ∧ (¬ x.before.workspace.Refuses c → x.shown = .ok (none, [])))
        ∧ ∀ id q, x.message.Asks id q →
            ∃ outcome, x.shown = .ok (some ⟨id, outcome⟩, [])
              ∧ ((∃ f, outcome = .error f ∧ f.code = -32602)
                  ↔ x.before.workspace.isOpen q.place.uri = false)
              ∧ (x.before.workspace.isOpen q.place.uri = true → ∃ v, outcome = .ok v))
    ∧ ∀ i x, (s.exchanges ms)[i]? = some x → ∀ uri,
        x.before.workspace.isOpen uri
          = Message.opensAll uri (s.workspace.isOpen uri) (ms.take i) := by
  refine ⟨?_, ?_, fun i x hx uri => isOpen_of_getElem?_exchanges hs hms hx uri⟩
  · intro keep hunseen
    refine exchanges_kept (.refl s) keep ms ?_
    intro i x hx hkeep
    have hserving := phase_of_mem_exchanges hs hms (List.mem_of_getElem? hx)
    exact (hunseen i x hx hkeep).alike hserving
  · intro x hx
    have hserving := phase_of_mem_exchanges hs hms hx
    constructor
    · intro c hchanges
      have hshown : x.shown = .ok (none, (x.before.workspace.note (.changed c)).1.notices) := by
        unfold Exchange.shown
        rw [handle_of_changes hserving hchanges]
        rfl
      rw [hshown]
      constructor
      · intro hrefuses
        obtain ⟨n, hn, hseverity⟩ := (Workspace.note_of_refuses hrefuses).1
        exact ⟨n, by rw [hn], hseverity⟩
      · intro hmade
        rw [Workspace.notices_of_not_refuses hmade]
    · intro id q hasks
      exact ⟨_, shown_of_asks hserving hasks, outcome_answer x.before.workspace q⟩

/-- The address of a document. -/
def sampleUri : Uri :=
  ⟨"file", some ⟨none, "", none⟩, .rooted ["api.yaml"], none, none⟩

/-- A change behind the end of the text. -/
def sampleChange : Changed :=
  ⟨sampleUri, 2, [⟨some ⟨⟨9, 0⟩, ⟨9, 0⟩⟩, "b"⟩]⟩

/-- A document is opened, a question is asked, a change behind the end of
the text is refused, the question is asked again, the document is closed,
and the question is asked once more. -/
def sampleMessages : List Message :=
  let uri := ("uri", Json.str "file:///api.yaml")
  let place (line : Nat) := Json.obj [("character", .int 0), ("line", .nat line)]
  let ask (id : Int) : Message :=
    ⟨"textDocument/definition", some (.int id),
      some (.obj [("position", place 1), ("textDocument", .obj [uri])])⟩
  [⟨"textDocument/didOpen", none,
      some (.obj [("textDocument", .obj [("languageId", .str "yaml"),
        ("text", .str "a:\n x: '#/a'"), uri, ("version", .int 1)])])⟩,
    ask 1,
    ⟨"textDocument/didChange", none,
      some (.obj [("contentChanges", .arr [.obj [
          ("range", .obj [("end", place 9), ("start", place 9)]), ("text", .str "b")]]),
        ("textDocument", .obj [uri, ("version", .int 2)])])⟩,
    ask 2,
    ⟨"textDocument/didClose", none, some (.obj [("textDocument", .obj [uri])])⟩,
    ask 3]

/-- The messages as they come in. -/
def sampleExchanges : List Exchange :=
  exchanges ⟨.serving, .empty⟩ sampleMessages

theorem conversation_unseen_sample :
    (exchanges ⟨.serving, .empty⟩ (kept (fun i => i ≠ 1 ∧ i ≠ 2) sampleMessages)).map Exchange.shown
        = kept (fun i => i ≠ 1 ∧ i ≠ 2) (sampleExchanges.map Exchange.shown)
      ∧ (∃ (x : Exchange) (n : Notice), sampleExchanges[2]? = some x
          ∧ x.shown = .ok (none, [n]) ∧ n.severity = .error)
      ∧ (∃ (x : Exchange) (v : Json), sampleExchanges[3]? = some x
          ∧ x.shown = .ok (some ⟨.int 2, .ok v⟩, []))
      ∧ ∃ (x : Exchange) (f : Fault), sampleExchanges[5]? = some x
          ∧ x.shown = .ok (some ⟨.int 3, .error f⟩, []) ∧ f.code = -32602 := by
  have hmethods : ∀ m ∈ sampleMessages, m.method ∈ documentMethods := by decide
  obtain ⟨hkept, hshown, hopen⟩ := conversation_unseen (s := ⟨.serving, .empty⟩) rfl hmethods
  have hturn := getElem?_exchanges ⟨.serving, .empty⟩ sampleMessages
  have hask : ∀ x, sampleExchanges[1]? = some x → x.message.IsQuery := by
    intro x hx
    have hmessage : some x.message = sampleMessages[1]? := by
      rw [← hturn 1]
      exact (congrArg (Option.map Exchange.message) hx).symm
    rw [Option.some.inj hmessage]
    exact .inl rfl
  have hchange : ∀ x, sampleExchanges[2]? = some x →
      x.message.Changes sampleChange ∧ x.before.workspace.Refuses sampleChange := by
    rintro x ⟨⟩
    exact ⟨⟨rfl, rfl, by decide +kernel⟩,
      Workspace.refuses_iff.2 ⟨.buffer (.outOfRange ⟨9, 0⟩), by decide +kernel⟩⟩
  refine ⟨hkept _ ?_, ?_, ?_, ?_⟩
  · intro i x hx hkeep
    obtain rfl | rfl : i = 1 ∨ i = 2 := by simp at hkeep; omega
    · exact .inl (hask x hx)
    · exact .inr ⟨_, hchange x hx⟩
  · obtain ⟨x, hx, -⟩ := Option.map_eq_some_iff.1 (hturn 2)
    obtain ⟨n, hn⟩ := ((hshown x (List.mem_of_getElem? hx)).1 _ (hchange x hx).1).1 (hchange x hx).2
    exact ⟨x, n, hx, hn⟩
  · obtain ⟨x, hx, hmessage⟩ := Option.map_eq_some_iff.1 (hturn 3)
    have hasks : x.message.Asks (.int 2) (.definition ⟨sampleUri, ⟨1, 0⟩⟩) := by
      rw [hmessage]
      exact .definition rfl rfl (by decide +kernel)
    obtain ⟨outcome, houtcome, -, hresult⟩ := (hshown x (List.mem_of_getElem? hx)).2 _ _ hasks
    obtain ⟨v, rfl⟩ := hresult ((hopen 3 x hx sampleUri).trans (by decide +kernel))
    exact ⟨x, v, hx, houtcome⟩
  · -- The document was closed before the last question.
    obtain ⟨x, hx, hmessage⟩ := Option.map_eq_some_iff.1 (hturn 5)
    have hasks : x.message.Asks (.int 3) (.definition ⟨sampleUri, ⟨1, 0⟩⟩) := by
      rw [hmessage]
      exact .definition rfl rfl (by decide +kernel)
    obtain ⟨outcome, houtcome, hfault, -⟩ := (hshown x (List.mem_of_getElem? hx)).2 _ _ hasks
    obtain ⟨f, rfl, hcode⟩ := hfault.2 ((hopen 5 x hx sampleUri).trans (by decide +kernel))
    exact ⟨x, f, hx, houtcome, hcode⟩

end Session

end DocNav
