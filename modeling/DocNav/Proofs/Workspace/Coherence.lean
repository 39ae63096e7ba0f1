/-
  DocNav.Proofs.Workspace.Coherence
  ─────────────────────────────────
  What is true of every document that is ever open.

  Its line index is the index of its text, its text is well-formed UTF-8,
  and an outline that is kept is the outline of the text as it stands.
  One operation keeps this (`coherent_act`), so a step does
  (`coherent_perform`), and it holds after every history (`coherent_run`).
-/
import DocNav.Proofs.Workspace.Local
import DocNav.Proofs.Buffer.Edit

namespace DocNav

/-! ## §1. Documents. -/

/-- The parts of a document fit together. -/
structure Document.Coherent (d : Document) : Prop where
  /-- The index is that of the text. -/
  indexed : d.buffer = .ofBytes d.buffer.bytes
  /-- The text is well-formed. -/
  wellFormed : Utf8.WellFormed d.buffer.bytes
  /-- An outline that is kept is that of the text. -/
  current : ∀ o, d.cached = some o → o = d.read

namespace Document

theorem coherent_ofBuffer (cs : List Char) (version : Int32) :
    (ofBuffer (.ofBytes (Utf8.encodeAll cs)) version).Coherent where
  indexed := rfl
  wellFormed := ⟨cs, rfl⟩
  current := by
    intro o h
    cases h

/-- The buffer and the outline of a coherent document come from one text. -/
theorem Coherent.exists_source {d : Document} (h : d.Coherent) :
    ∃ cs, d.buffer = .ofBytes (Utf8.encodeAll cs) ∧ d.read = .parse cs := by
  obtain ⟨cs, hcs⟩ := h.wellFormed
  refine ⟨cs, by rw [h.indexed, hcs], ?_⟩
  unfold read
  rw [hcs, Utf8.lossy_encodeAll]

/-- A question is always asked of the outline of the text as it stands. -/
theorem Coherent.outline_eq {d : Document} (h : d.Coherent) : d.outline = d.read := by
  unfold outline
  cases hcached : d.cached with
  | none => rfl
  | some o => exact h.current o hcached

theorem Coherent.consult {α : Type} {d : Document} (h : d.Coherent) (ask : Outline → α) :
    (d.consult ask).state.Coherent := by
  rw [consult_state, h.outline_eq]
  refine ⟨h.indexed, h.wellFormed, ?_⟩
  intro o ho
  injection ho with ho
  exact ho.symm

theorem change_eq (d : Document) (version : Int32) (edits : List Edit) :
    d.change version edits
      = match d.buffer.applyAll edits with
        | .error e => .error e
        | .ok b => .ok (ofBuffer b version) := by
  unfold change
  cases d.buffer.applyAll edits <;> rfl

theorem Coherent.change {d d' : Document} (h : d.Coherent) {version : Int32} {edits : List Edit}
    (hchange : d.change version edits = .ok d') : d'.Coherent := by
  rw [change_eq] at hchange
  split at hchange
  next => exact absurd hchange (by simp)
  next b hb =>
    injection hchange with hchange
    obtain ⟨cs, hcs⟩ := h.wellFormed
    rw [h.indexed, hcs] at hb
    obtain ⟨ds, rfl⟩ := Buffer.applyAll_encodeAll hb
    rw [← hchange]
    exact coherent_ofBuffer ds version

end Document

/-! ## §2. One operation. -/

/-- The document an operation leaves is coherent if the one before it was. -/
theorem Operation.coherent_act {d? : Option Document} (h : ∀ d, d? = some d → d.Coherent)
    (op : Operation) (uri : Uri) (d : Document) (hd : (op.act uri d?).2 = some d) :
    d.Coherent := by
  -- All questions leave the document with an outline in place.
  have hanswer : ∀ ask, (answer uri ask d?).2 = some d → d.Coherent := by
    intro ask hd
    cases d? with
    | none => cases hd
    | some old =>
      injection hd with hd
      rw [← hd]
      exact (h old rfl).consult ask
  cases op with
  | openDocument source version =>
    injection hd with hd
    rw [← hd]
    exact Document.coherent_ofBuffer source.toList version
  | closeDocument => cases hd
  | change version edits =>
    cases d? with
    | none => cases hd
    | some old =>
      simp only [act, edit] at hd
      split at hd
      next d' hchange =>
        injection hd with hd
        rw [← hd]
        exact (h old rfl).change hchange
      next =>
        -- A batch that fails leaves the document with the outline it kept.
        injection hd with hd
        rw [← hd]
        exact h old rfl
  | outline => exact hanswer _ hd
  | text => exact h d hd
  | isOpen => exact h d hd
  | definition p => exact hanswer _ hd
  | references p => exact hanswer _ hd

/-! ## §3. Histories. -/

namespace Workspace

/-- Every open document is coherent. -/
def Coherent (w : Workspace) : Prop :=
  ∀ uri d, w.find? uri = some d → d.Coherent

theorem find?_empty (uri : Uri) : empty.find? uri = none := by
  simp [find?, empty]

theorem coherent_empty : empty.Coherent := by
  intro uri d h
  rw [find?_empty] at h
  cases h

theorem coherent_perform {w : Workspace} (h : w.Coherent) (s : Step) :
    (w.perform s).2.Coherent := by
  intro other d hd
  rw [find?_perform] at hd
  split at hd
  · exact s.operation.coherent_act (h s.uri) s.uri d hd
  · exact h other d hd

theorem coherent_run {w : Workspace} (h : w.Coherent) (steps : List Step) :
    (w.run steps).2.Coherent := by
  induction steps generalizing w with
  | nil => exact h
  | cons s steps ih => exact ih (coherent_perform h s)

end Workspace

end DocNav
