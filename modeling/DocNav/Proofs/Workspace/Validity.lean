/-
  DocNav.Proofs.Workspace.Validity
  ────────────────────────────────
  The text of an open document is always UTF-8.

  Edits are made between whole characters, whatever positions they name,
  so no history of a workspace breaks a character.  That a document is
  shown and read with a replacement for broken sequences therefore never
  shows: the text that is given out has the bytes that are kept, the
  outline is read from that very text, and no change is refused because of
  a byte that is out of place.
-/
import DocNav.Proofs.Workspace.Coherence

namespace DocNav

open Utf8

/-! ## §1. Documents. -/

namespace Document

theorem Coherent.isValidUTF8 {d : Document} (h : d.Coherent) :
    d.buffer.bytes.toByteArray.IsValidUTF8 :=
  wellFormed_iff_isValidUTF8.1 h.wellFormed

/-- The text that is given out has the bytes that are kept. -/
theorem Coherent.toByteArray_text {d : Document} (h : d.Coherent) :
    d.buffer.text.toByteArray = d.buffer.bytes.toByteArray := by
  have hbytes : encodeAll (lossy d.buffer.bytes) = d.buffer.bytes := wellFormed_iff.1 h.wellFormed
  have htext : d.buffer.text.toList = lossy d.buffer.bytes := String.toList_ofList
  rw [← toByteArray_ofString, ofString, htext, hbytes]

/-- No piece of the text is a broken sequence. -/
theorem Coherent.exists_char_of_mem_pieces {d : Document} (h : d.Coherent) {piece : Piece}
    (hpiece : piece ∈ pieces d.buffer.bytes) : ∃ c, piece = .char c := by
  obtain ⟨cs, hcs⟩ := h.wellFormed
  rw [hcs, pieces_encodeAll, List.mem_map] at hpiece
  obtain ⟨c, -, rfl⟩ := hpiece
  exact ⟨c, rfl⟩

/-- The outline is read from the characters that the bytes are written for. -/
theorem Coherent.read_eq {d : Document} (h : d.Coherent) :
    ∃ cs : List Char, cs.utf8Encode = d.buffer.bytes.toByteArray ∧ d.read = .parse cs := by
  obtain ⟨cs, hbuffer, hread⟩ := h.exists_source
  exact ⟨cs, by rw [hbuffer, Buffer.bytes_ofBytes, toByteArray_encodeAll], hread⟩

theorem Coherent.change_ne_invalidEncoding {d : Document} (h : d.Coherent) (version : Int32)
    (edits : List Edit) (bad : Nat) : d.change version edits ≠ .error (.invalidEncoding bad) := by
  intro hchange
  obtain ⟨cs, hbuffer, -⟩ := h.exists_source
  rw [change_eq, hbuffer] at hchange
  split at hchange
  next e he =>
    injection hchange with hchange
    rw [hchange] at he
    exact Buffer.applyAll_encodeAll_ne_invalidEncoding cs edits bad he
  next => exact absurd hchange (by simp)

end Document

/-! ## §2. Histories. -/

namespace Workspace

/-- The document is UTF-8, and it is shown and read as it is. -/
structure ShownAsKept (w : Workspace) (uri : Uri) (d : Document) : Prop where
  /-- The bytes are UTF-8. -/
  valid : d.buffer.bytes.toByteArray.IsValidUTF8
  /-- The text has these bytes. -/
  text : ∃ t, w.text? uri = some t ∧ t.toByteArray = d.buffer.bytes.toByteArray
  /-- No sequence is broken, so none is replaced. -/
  unbroken : ∀ piece ∈ pieces d.buffer.bytes, ∃ c, piece = .char c
  /-- What is read into an outline has these bytes. -/
  read : ∃ cs : List Char, cs.utf8Encode = d.buffer.bytes.toByteArray ∧ d.read = .parse cs

theorem Coherent.shownAsKept {w : Workspace} (h : w.Coherent) {uri : Uri} {d : Document}
    (hfind : w.find? uri = some d) : w.ShownAsKept uri d := by
  have hd := h uri d hfind
  refine ⟨hd.isValidUTF8, ⟨d.buffer.text, ?_, hd.toByteArray_text⟩,
    fun _ hpiece => hd.exists_char_of_mem_pieces hpiece, hd.read_eq⟩
  unfold text?
  rw [hfind]
  rfl

theorem Coherent.change_ne_invalidEncoding {w : Workspace} (h : w.Coherent) (uri : Uri)
    (version : Int32) (edits : List Edit) (bad : Nat) :
    w.change uri version edits ≠ .error (.buffer (.invalidEncoding bad)) := by
  intro hchange
  unfold change at hchange
  split at hchange
  next => exact absurd hchange (by simp)
  next d hfind =>
    split at hchange
    next e he =>
      injection hchange with hchange
      injection hchange with hchange
      rw [hchange] at he
      exact (h uri d hfind).change_ne_invalidEncoding version edits bad he
    next => exact absurd hchange (by simp)

/-- After every history the open documents are UTF-8 and are shown and read
as they are kept, and no change whatever is refused because of a byte that
is out of place. -/
theorem run_validUTF8 (steps : List Step) :
    (∀ uri d, (empty.run steps).2.find? uri = some d → (empty.run steps).2.ShownAsKept uri d)
    ∧ ∀ uri version edits bad,
        (empty.run steps).2.change uri version edits
          ≠ .error (.buffer (.invalidEncoding bad)) := by
  have hcoherent : (empty.run steps).2.Coherent := coherent_run coherent_empty steps
  constructor
  · intro uri d hfind
    exact hcoherent.shownAsKept hfind
  · intro uri version edits bad
    exact hcoherent.change_ne_invalidEncoding uri version edits bad

end Workspace

end DocNav
