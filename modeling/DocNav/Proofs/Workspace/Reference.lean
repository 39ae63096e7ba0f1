/-
  DocNav.Proofs.Workspace.Reference
  ─────────────────────────────────
  A workspace answers as if it kept nothing but texts.

  The reference keeps the bytes and the version of each document and reads
  the text anew for every question.  A workspace that keeps outlines gives
  the same answers over every history: a step of the one is a step of the
  other on matching stores (`perform_matches`), and what makes that go
  through is that outlines that are kept are current.
-/
import DocNav.Proofs.Workspace.Coherence

namespace DocNav

/-! ## §1. The reference. -/

namespace Reference

/-- What the reference keeps of a document. -/
structure Snapshot where
  bytes : List UInt8
  version : Int32
  deriving Repr, DecidableEq

/-- The open documents by the written form of their address. -/
abbrev Store := String → Option Snapshot

/-- No document is open. -/
def empty : Store :=
  fun _ => none

/-- Ask a question about the outline of the text as it stands. -/
def answer (store : Store) (uri : Uri) (ask : Outline → Outcome) : Outcome :=
  match store uri.text with
  | none => .failed (.unknownDocument uri)
  | some d => ask (Outline.parse (Utf8.lossy d.bytes))

/-- Perform an operation. -/
def perform (store : Store) (s : Step) : Outcome × Store :=
  match s.operation with
  | .openDocument source version =>
      (.done, Function.update store s.uri.text (some ⟨Utf8.ofString source, version⟩))
  | .closeDocument => (.done, Function.update store s.uri.text none)
  | .change version edits =>
      match store s.uri.text with
      | none => (.failed (.unknownDocument s.uri), store)
      | some d =>
          match (Buffer.ofBytes d.bytes).applyAll edits with
          | .error e => (.failed (.buffer e), store)
          | .ok b => (.done, Function.update store s.uri.text (some ⟨b.bytes, version⟩))
  | .outline => (answer store s.uri .outline, store)
  | .text => (.text ((store s.uri.text).map fun d => Utf8.lossyString d.bytes), store)
  | .isOpen => (.isOpen (store s.uri.text).isSome, store)
  | .definition p =>
      (answer store s.uri fun o =>
        .definition ((o.definition? p.line.toNat).map (⟨s.uri, ·⟩)), store)
  | .references p =>
      (answer store s.uri fun o =>
        .references ((o.references p.line.toNat).map (⟨s.uri, ·⟩)), store)

/-- Perform a history, with what came of each step. -/
def run (store : Store) : List Step → List Outcome × Store
  | [] => ([], store)
  | s :: steps =>
      let (o, store') := perform store s
      let (os, store'') := run store' steps
      (o :: os, store'')

end Reference

/-! ## §2. Matching stores. -/

/-- What the reference keeps of a document. -/
def Document.snapshot (d : Document) : Reference.Snapshot :=
  ⟨d.buffer.bytes, d.version⟩

namespace Workspace

open Reference (Store)

/-- The reference keeps the texts of the workspace, and the workspace is coherent. -/
structure Matches (w : Workspace) (store : Store) : Prop where
  coherent : w.Coherent
  snapshots : ∀ uri : Uri, store uri.text = (w.find? uri).map Document.snapshot

theorem matches_empty : Matches empty Reference.empty where
  coherent := coherent_empty
  snapshots := by
    intro uri
    rw [find?_empty]
    rfl

/-- What the reference does with the snapshot at an address. -/
theorem perform_act {d? : Option Document} (h : ∀ d, d? = some d → d.Coherent) (store : Store)
    (s : Step) (hstore : store s.uri.text = d?.map Document.snapshot) :
    (s.operation.act s.uri d?).1.outcome = (Reference.perform store s).1
      ∧ (Reference.perform store s).2
          = Function.update store s.uri.text
              ((s.operation.act s.uri d?).2.map Document.snapshot) := by
  have hself : Function.update store s.uri.text (d?.map Document.snapshot) = store := by
    rw [← hstore, Function.update_eq_self]
  -- A question may leave an outline behind, but nothing that a snapshot holds.
  have hanswer : ∀ ask, (Operation.answer s.uri ask d?).1.outcome = Reference.answer store s.uri ask
      ∧ store = Function.update store s.uri.text
          ((Operation.answer s.uri ask d?).2.map Document.snapshot) := by
    intro ask
    cases d? with
    | none =>
      refine ⟨?_, hself.symm⟩
      simp only [Reference.answer, hstore]
      rfl
    | some d =>
      have hd := h d rfl
      constructor
      · simp only [Operation.answer, Reference.answer, hstore, Option.map_some,
          Document.consult_value, hd.outline_eq]
        rfl
      · simp only [Operation.answer, Document.consult_state, Option.map_some]
        exact hself.symm
  obtain ⟨uri, op⟩ := s
  cases op with
  | openDocument source version => exact ⟨rfl, rfl⟩
  | closeDocument => exact ⟨rfl, rfl⟩
  | change version edits =>
    cases d? with
    | none =>
      simp only [Reference.perform, hstore]
      exact ⟨rfl, hself.symm⟩
    | some d =>
      -- The reference indexes the bytes anew, which gives the index that is kept.
      have hbuffer : d.buffer = .ofBytes d.snapshot.bytes := (h d rfl).indexed
      simp only [Reference.perform, Operation.act, Operation.edit, hstore, Option.map_some,
        Document.change_eq, ← hbuffer]
      cases d.buffer.applyAll edits with
      | error e => exact ⟨rfl, hself.symm⟩
      | ok b => exact ⟨rfl, rfl⟩
  | outline => exact hanswer _
  | text =>
    refine ⟨?_, hself.symm⟩
    simp only [Reference.perform, hstore, Option.map_map]
    rfl
  | isOpen =>
    refine ⟨?_, hself.symm⟩
    simp only [Reference.perform, hstore, Option.isSome_map]
    rfl
  | definition p => exact hanswer _
  | references p => exact hanswer _

/-- **One step**: on matching stores the answers are equal and the stores
match again. -/
theorem perform_matches {w : Workspace} {store : Store} (h : w.Matches store) (s : Step) :
    (w.perform s).1.outcome = (Reference.perform store s).1
      ∧ (w.perform s).2.Matches (Reference.perform store s).2 := by
  obtain ⟨houtcome, hstore⟩ := perform_act (h.coherent s.uri) store s (h.snapshots s.uri)
  refine ⟨by rw [perform_fst, houtcome], coherent_perform h.coherent s, ?_⟩
  intro other
  rw [hstore, find?_perform]
  by_cases hother : s.uri.text = other.text
  · rw [if_pos hother, ← hother, Function.update_self]
  · rw [if_neg hother, Function.update_of_ne (Ne.symm hother)]
    exact h.snapshots other

theorem run_matches {w : Workspace} {store : Store} (h : w.Matches store) (steps : List Step) :
    (w.run steps).1.map Performed.outcome = (Reference.run store steps).1 := by
  induction steps generalizing w store with
  | nil => rfl
  | cons s steps ih =>
    obtain ⟨houtcome, hmatches⟩ := perform_matches h s
    show (w.perform s).1.outcome :: ((w.perform s).2.run steps).1.map Performed.outcome
      = (Reference.perform store s).1 :: (Reference.run (Reference.perform store s).2 steps).1
    rw [houtcome, ih hmatches]

/-! ## §3. Which documents are open. -/

/-- Whether the document is open after a step, by the step alone. -/
def opens (uri : Uri) (before : Bool) (s : Step) : Bool :=
  if s.uri.text = uri.text then
    match s.operation with
    | .openDocument _ _ => true
    | .closeDocument => false
    | _ => before
  else before

/-- Whether the last step of a history that opens or closes the document
opens it. -/
def isOpenAfter (uri : Uri) (steps : List Step) : Bool :=
  steps.foldl (opens uri) false

theorem isSome_act (op : Operation) (uri : Uri) (d? : Option Document) :
    (op.act uri d?).2.isSome
      = match op with
        | .openDocument _ _ => true
        | .closeDocument => false
        | _ => d?.isSome := by
  cases op with
  | openDocument source version => rfl
  | closeDocument => rfl
  | change version edits =>
    cases d? with
    | none => rfl
    | some d =>
      simp only [Operation.act, Operation.edit]
      cases d.change version edits <;> rfl
  | outline => cases d? <;> rfl
  | text => rfl
  | isOpen => rfl
  | definition p => cases d? <;> rfl
  | references p => cases d? <;> rfl

theorem isOpen_perform (w : Workspace) (s : Step) (uri : Uri) :
    (w.perform s).2.isOpen uri = opens uri (w.isOpen uri) s := by
  unfold isOpen opens
  rw [find?_perform]
  by_cases h : s.uri.text = uri.text
  · rw [if_pos h, if_pos h, isSome_act, w.find?_congr h]
  · rw [if_neg h, if_neg h]

theorem isOpen_run (w : Workspace) (steps : List Step) (uri : Uri) :
    (w.run steps).2.isOpen uri = steps.foldl (opens uri) (w.isOpen uri) := by
  induction steps generalizing w with
  | nil => rfl
  | cons s steps ih =>
    show ((w.perform s).2.run steps).2.isOpen uri = _
    rw [ih, isOpen_perform, List.foldl_cons]

/-- A question fails where no document is open, and nowhere else. -/
theorem consult_of_isOpen {α : Type} (w : Workspace) (uri : Uri) (ask : Outline → α) :
    (w.isOpen uri = true → ∃ a, w.consult uri ask = .ok a)
    ∧ (w.isOpen uri = false → w.consult uri ask = .error (.unknownDocument uri)) := by
  unfold isOpen consult
  cases w.find? uri with
  | none => exact ⟨fun h => absurd h (by simp), fun _ => rfl⟩
  | some d => exact ⟨fun _ => ⟨_, rfl⟩, fun h => absurd h (by simp)⟩

/-! ## §4. Every history. -/

/-- Over every history a workspace answers as the reference does; outlines
that are kept are current; and questions about an outline fail exactly
where the document is not open, whatever the position, because it is not
open. -/
theorem run_eq_reference (steps : List Step) :
    (empty.run steps).1.map Performed.outcome = (Reference.run Reference.empty steps).1
    ∧ (∀ uri d o, (empty.run steps).2.find? uri = some d → d.cached = some o →
        o = Outline.parse (Utf8.lossy d.buffer.bytes))
    ∧ ∀ uri p,
        (isOpenAfter uri steps = true →
          (∃ a, (empty.run steps).2.outline uri = .ok a)
          ∧ (∃ a, (empty.run steps).2.definition uri p = .ok a)
          ∧ ∃ a, (empty.run steps).2.references uri p = .ok a)
        ∧ (isOpenAfter uri steps = false →
          (empty.run steps).2.outline uri = .error (.unknownDocument uri)
          ∧ (empty.run steps).2.definition uri p = .error (.unknownDocument uri)
          ∧ (empty.run steps).2.references uri p = .error (.unknownDocument uri)) := by
  refine ⟨run_matches matches_empty steps, ?_, ?_⟩
  · intro uri d o hfind hcached
    exact (coherent_run coherent_empty steps uri d hfind).current o hcached
  · intro uri p
    have hempty : empty.isOpen uri = false := by
      unfold isOpen
      rw [find?_empty]
      rfl
    have hopen : isOpenAfter uri steps = (empty.run steps).2.isOpen uri := by
      rw [isOpen_run, hempty]
      rfl
    -- All three questions consult the same document.
    have houtline := consult_of_isOpen (empty.run steps).2 uri id
    have hdefinition := consult_of_isOpen (empty.run steps).2 uri
      fun o => (o.definition? p.line.toNat).map (Location.mk uri)
    have hreferences := consult_of_isOpen (empty.run steps).2 uri
      fun o => (o.references p.line.toNat).map (Location.mk uri)
    rw [hopen]
    constructor
    · intro h
      exact ⟨houtline.1 h, hdefinition.1 h, hreferences.1 h⟩
    · intro h
      exact ⟨houtline.2 h, hdefinition.2 h, hreferences.2 h⟩

end Workspace

end DocNav
