/-
  DocNav.Proofs.Workspace.Local
  ─────────────────────────────
  An operation on a workspace is an operation on one document.

  `Operation.act` says what an operation does with the document at its
  address, which may not be open.  What an operation answers depends on
  that document only (`perform_fst`), and it leaves all others as they
  were (`find?_perform`).  Everything that is said of runs of a workspace
  is said of `act` first.
-/
import DocNav.Workspace.Operation

namespace DocNav

/-! ## §1. Questions about the outline. -/

namespace Document

/-- The outline that a question is asked of: the one kept, or a new one. -/
def outline (d : Document) : Outline :=
  d.cached.getD d.read

theorem consult_value {α : Type} (d : Document) (ask : Outline → α) :
    (d.consult ask).value = ask d.outline := by
  unfold consult outline
  cases d.cached <;> rfl

/-- After a question the outline is kept. -/
theorem consult_state {α : Type} (d : Document) (ask : Outline → α) :
    (d.consult ask).state = { d with cached := some d.outline } := by
  unfold consult outline
  cases h : d.cached with
  | none => rfl
  | some o =>
    obtain ⟨buffer, version, cached⟩ := d
    subst h
    rfl

/-- A reading is taken when no outline is kept. -/
theorem consult_reading {α : Type} (d : Document) (ask : Outline → α) :
    (d.consult ask).reading
      = if d.cached.isSome then none else some ⟨d.version, d.read.size⟩ := by
  unfold consult
  cases d.cached <;> rfl

end Document

/-! ## §2. What an operation does with its document. -/

namespace Operation

/-- A question about the outline of a document. -/
def answer (uri : Uri) (ask : Outline → Outcome) : Option Document → Performed × Option Document
  | none => (.plain (.failed (.unknownDocument uri)), none)
  | some d =>
      let a := d.consult ask
      (⟨a.value, a.reading⟩, some a.state)

/-- A batch of edits of a document. -/
def edit (uri : Uri) (version : Int32) (edits : List Edit) :
    Option Document → Performed × Option Document
  | none => (.plain (.failed (.unknownDocument uri)), none)
  | some d =>
      match d.change version edits with
      | .ok d' => (.plain .done, some d')
      | .error e => (.plain (.failed (.buffer e)), some d)

/-- What an operation answers, and the document it leaves at its address. -/
def act (op : Operation) (uri : Uri) (d? : Option Document) : Performed × Option Document :=
  match op with
  | .openDocument source version => (.plain .done, some (.ofBuffer (.ofString source) version))
  | .closeDocument => (.plain .done, none)
  | .change version edits => edit uri version edits d?
  | .outline => answer uri .outline d?
  | .text => (.plain (.text (d?.map (·.buffer.text))), d?)
  | .isOpen => (.plain (.isOpen d?.isSome), d?)
  | .definition p =>
      answer uri (fun o => .definition ((o.definition? p.line.toNat).map (⟨uri, ·⟩))) d?
  | .references p =>
      answer uri (fun o => .references ((o.references p.line.toNat).map (⟨uri, ·⟩))) d?

end Operation

/-! ## §3. A workspace does it in place. -/

namespace Workspace

/-- Addresses with one written form are one document. -/
theorem find?_congr (w : Workspace) {uri other : Uri} (h : uri.text = other.text) :
    w.find? uri = w.find? other := by
  unfold find?
  rw [h]

theorem find?_self (w : Workspace) (uri other : Uri) :
    w.find? other = if uri.text = other.text then w.find? uri else w.find? other := by
  split
  next h => rw [w.find?_congr h]
  next => rfl

/-- A question asked of a workspace is asked of the document. -/
theorem ofAnswered_consult {α : Type} (w : Workspace) (uri : Uri) (outcome : α → Outcome)
    (ask : Outline → α) :
    (w.ofAnswered outcome (w.consult uri ask)).1
        = (Operation.answer uri (fun o => outcome (ask o)) (w.find? uri)).1
      ∧ ∀ other, (w.ofAnswered outcome (w.consult uri ask)).2.find? other
          = if uri.text = other.text
            then (Operation.answer uri (fun o => outcome (ask o)) (w.find? uri)).2
            else w.find? other := by
  unfold consult
  cases hfind : w.find? uri with
  | none =>
    refine ⟨rfl, fun other => ?_⟩
    show w.find? other = if uri.text = other.text then none else w.find? other
    rw [← hfind, ← w.find?_self]
  | some d =>
    constructor
    · simp only [ofAnswered, Operation.answer, Document.consult_value, Document.consult_reading]
    · intro other
      simp only [ofAnswered, Operation.answer, Document.consult_state, find?_put]

/-- What a step answers and leaves is settled by the document at its address. -/
theorem perform_eq (w : Workspace) (s : Step) :
    (w.perform s).1 = (s.operation.act s.uri (w.find? s.uri)).1
      ∧ ∀ other, (w.perform s).2.find? other
          = if s.uri.text = other.text then (s.operation.act s.uri (w.find? s.uri)).2
            else w.find? other := by
  obtain ⟨uri, op⟩ := s
  cases op with
  | openDocument source version => exact ⟨rfl, fun other => w.find?_put uri other _⟩
  | closeDocument => exact ⟨rfl, fun other => w.find?_closeDocument uri other⟩
  | change version edits =>
    have hself := w.find?_self uri
    simp only [perform, change, Operation.act, Operation.edit]
    cases hfind : w.find? uri with
    | none =>
      rw [hfind] at hself
      exact ⟨rfl, hself⟩
    | some d =>
      rw [hfind] at hself
      dsimp only
      cases d.change version edits with
      | error e => exact ⟨rfl, hself⟩
      | ok d' => exact ⟨rfl, fun other => w.find?_put uri other d'⟩
  | outline => exact w.ofAnswered_consult uri .outline id
  | text => exact ⟨rfl, fun other => w.find?_self uri other⟩
  | isOpen => exact ⟨rfl, fun other => w.find?_self uri other⟩
  | definition p => exact w.ofAnswered_consult uri .definition _
  | references p => exact w.ofAnswered_consult uri .references _

theorem perform_fst (w : Workspace) (s : Step) :
    (w.perform s).1 = (s.operation.act s.uri (w.find? s.uri)).1 :=
  (w.perform_eq s).1

theorem find?_perform (w : Workspace) (s : Step) (other : Uri) :
    (w.perform s).2.find? other
      = if s.uri.text = other.text then (s.operation.act s.uri (w.find? s.uri)).2
        else w.find? other :=
  (w.perform_eq s).2 other

end Workspace

end DocNav
