/-
  DocNav.Proofs.Workspace.Atomicity
  ─────────────────────────────────
  A batch of edits is made as a whole or not at all.

  `Made` says that edits are made one after another, each in the buffer
  that the one before it leaves.  A batch that fails leaves the workspace
  as it was, the document with its version and its outline included
  (`perform_change_error`); a batch that is made leaves the buffer of its
  last edit, the new version and no outline (`perform_change_ok`).  One
  edit of a range is refused because its start is not found, or else its
  end, or else because the range is inverted (`judged_ofBytes`).
-/
import DocNav.Proofs.Buffer.Order
import DocNav.Proofs.Workspace.Coherence

namespace DocNav

open LineIndex

/-! ## §1. One edit after another. -/

namespace Buffer

/-- The edits are made one after another, each in the buffer that the one
before it leaves, and the last one leaves `b'`. -/
inductive Made : Buffer → List Edit → Buffer → Prop
  | nil (b : Buffer) : Made b [] b
  | cons {b mid b' : Buffer} {e : Edit} {edits : List Edit} (first : b.apply e = .ok mid)
      (rest : Made mid edits b') : Made b (e :: edits) b'

/-- The edits before number `k` are made one after another, and edit
number `k` fails in the buffer that they leave. -/
def FailsAt (b : Buffer) (edits : List Edit) (k : Nat) (err : BufferError) : Prop :=
  ∃ e left, edits[k]? = some e ∧ b.Made (edits.take k) left ∧ left.apply e = .error err

theorem Made.applyAll {b b' : Buffer} {edits : List Edit} (h : b.Made edits b') :
    b.applyAll edits = .ok b' := by
  induction h with
  | nil b => rfl
  | cons first rest ih =>
    unfold Buffer.applyAll at ih ⊢
    rw [List.foldlM_cons, first]
    exact ih

theorem made_of_applyAll {b b' : Buffer} {edits : List Edit} (h : b.applyAll edits = .ok b') :
    b.Made edits b' := by
  unfold Buffer.applyAll at h
  induction edits generalizing b with
  | nil =>
    injection h with h
    rw [h]
    exact .nil b'
  | cons e edits ih =>
    rw [List.foldlM_cons] at h
    cases he : b.apply e with
    | error err =>
      rw [he] at h
      cases h
    | ok mid =>
      rw [he] at h
      exact .cons he (ih h)

/-- Edits that are made can be made in two batches. -/
theorem Made.split {b b' : Buffer} {front back : List Edit} (h : b.Made (front ++ back) b') :
    ∃ mid, b.Made front mid ∧ mid.Made back b' := by
  induction front generalizing b with
  | nil => exact ⟨b, .nil b, h⟩
  | cons e front ih =>
    cases h with
    | cons first rest =>
      obtain ⟨mid, hfront, hback⟩ := ih rest
      exact ⟨mid, .cons first hfront, hback⟩

theorem FailsAt.applyAll {b : Buffer} {edits : List Edit} {k : Nat} {err : BufferError}
    (h : b.FailsAt edits k err) : b.applyAll edits = .error err := by
  obtain ⟨e, left, he, hleft, herror⟩ := h
  obtain ⟨hlt, rfl⟩ := List.getElem?_eq_some_iff.mp he
  have hsplit : edits = edits.take k ++ edits[k] :: edits.drop (k + 1) := by
    rw [List.cons_getElem_drop_succ, List.take_append_drop]
  exact applyAll_eq_error_iff.mpr ⟨_, _, _, left, hsplit, hleft.applyAll, herror⟩

/-- A batch is made, or it fails at one of its edits. -/
theorem failsAt_or_made (b : Buffer) (edits : List Edit) :
    (∃ k err, b.FailsAt edits k err) ∨ ∃ b', b.Made edits b' := by
  cases h : b.applyAll edits with
  | ok b' => exact .inr ⟨b', made_of_applyAll h⟩
  | error err =>
    obtain ⟨front, e, back, left, rfl, hfront, herror⟩ := applyAll_eq_error_iff.mp h
    refine .inl ⟨front.length, err, e, left, ?_, ?_, herror⟩
    · rw [List.getElem?_append_right (Nat.le_refl _), Nat.sub_self]
      rfl
    · rw [List.take_left]
      exact made_of_applyAll hfront

end Buffer

/-! ## §2. Changes of an open document. -/

theorem Document.change_of_applyAll {d : Document} {edits : List Edit} {b : Buffer}
    (h : d.buffer.applyAll edits = .ok b) (version : Int32) :
    d.change version edits = .ok ⟨b, version, none⟩ := by
  rw [change_eq, h]
  rfl

theorem Document.change_of_error {d : Document} {edits : List Edit} {err : BufferError}
    (h : d.buffer.applyAll edits = .error err) (version : Int32) :
    d.change version edits = .error err := by
  rw [change_eq, h]

namespace Workspace

/-- A batch that fails leaves the workspace as it was. -/
theorem perform_change_error {w : Workspace} {uri : Uri} {d : Document}
    (hopen : w.find? uri = some d) {edits : List Edit} {err : BufferError}
    (h : d.buffer.applyAll edits = .error err) (version : Int32) :
    w.perform ⟨uri, .change version edits⟩ = (.plain (.failed (.buffer err)), w) := by
  simp only [perform, change, hopen, Document.change_of_error h]

/-- A batch that is made leaves its buffer, not read yet, in place. -/
theorem perform_change_ok {w : Workspace} {uri : Uri} {d : Document}
    (hopen : w.find? uri = some d) {edits : List Edit} {b : Buffer}
    (h : d.buffer.applyAll edits = .ok b) (version : Int32) :
    w.perform ⟨uri, .change version edits⟩ = (.plain .done, w.put uri ⟨b, version, none⟩) := by
  simp only [perform, change, hopen, Document.change_of_applyAll h]

end Workspace

/-! ## §3. One edit of a range. -/

namespace Buffer

/-- How an edit of a range comes out: why it is refused, or what it makes. -/
structure Judged (b : Buffer) (r : Range) (text : String) : Prop where
  /-- A start that is not found is the reason. -/
  start : ∀ err, b.offsetOf r.start = .error err → b.apply ⟨some r, text⟩ = .error err
  /-- Else an end that is not found is. -/
  stop : ∀ s err, b.offsetOf r.start = .ok s → b.offsetOf r.stop = .error err →
    b.apply ⟨some r, text⟩ = .error err
  /-- Else the edit is refused exactly when the range is inverted. -/
  order : ∀ s t, b.offsetOf r.start = .ok s → b.offsetOf r.stop = .ok t →
    (b.apply ⟨some r, text⟩ = .error (.invertedRange r.start r.stop) ↔ b.Inverted r)
  /-- Else the new text stands between the bytes before the start and those
  from the end on. -/
  made : ∀ s t, b.offsetOf r.start = .ok s → b.offsetOf r.stop = .ok t → ¬ b.Inverted r →
    b.apply ⟨some r, text⟩
      = .ok (.ofBytes (b.bytes.take s ++ Utf8.ofString text ++ b.bytes.drop t))

theorem judged_ofBytes {bs : List UInt8} (hsize : bs.length < 2 ^ 32) (r : Range)
    (text : String) : (ofBytes bs).Judged r text where
  start := by
    intro err hstart
    simp only [apply, hstart]
    rfl
  stop := by
    intro s err hstart hstop
    simp only [apply, hstart, hstop]
    rfl
  order := by
    intro s t hstart hstop
    rw [← lt_iff_inverted hsize hstart hstop]
    constructor
    · intro herror
      by_contra hle
      rw [apply_of_offsets hstart hstop (by omega)] at herror
      cases herror
    · intro hlt
      exact apply_of_lt hstart hstop hlt text
  made := by
    intro s t hstart hstop hinverted
    rw [← lt_iff_inverted hsize hstart hstop] at hinverted
    exact apply_of_offsets hstart hstop (by omega) text

end Buffer

namespace Workspace

/-- An edit of a range is refused for the first of three reasons: its start
is not found, its end is not found, the range is inverted.  Refused, it
leaves everything as it was; else the text between the two places where
its ends are found is replaced. -/
theorem range_edit_judged (bs : List UInt8) (hsize : bs.length < 2 ^ 32) (r : Range)
    (text : String) :
    (Buffer.ofBytes bs).Judged r text
    ∧ ∀ (w : Workspace) (uri : Uri) (d : Document) (version : Int32),
        w.find? uri = some d → d.buffer = .ofBytes bs →
        (∀ err, (Buffer.ofBytes bs).apply ⟨some r, text⟩ = .error err →
          w.perform ⟨uri, .change version [⟨some r, text⟩]⟩
            = (.plain (.failed (.buffer err)), w))
        ∧ ∀ b, (Buffer.ofBytes bs).apply ⟨some r, text⟩ = .ok b →
          w.perform ⟨uri, .change version [⟨some r, text⟩]⟩
            = (.plain .done, w.put uri ⟨b, version, none⟩) := by
  refine ⟨Buffer.judged_ofBytes hsize r text, ?_⟩
  intro w uri d version hopen hbuffer
  constructor
  · intro err herror
    refine perform_change_error hopen ?_ version
    rw [hbuffer]
    exact Buffer.applyAll_eq_error_iff.mpr ⟨[], _, [], _, rfl, rfl, herror⟩
  · intro b hb
    refine perform_change_ok hopen ?_ version
    rw [hbuffer]
    exact (Buffer.Made.cons hb (.nil b)).applyAll

/-- A document that ends with a character of four bytes. -/
def endingWorkspace : Workspace :=
  empty.openDocument ⟨"file", none, .rooted ["end.yaml"], none, none⟩ "a\n😀" 1

/-- The line after the last one and the end of the last line are one place
and can be the ends of a range in that order; the start of the last line
lies before them.  Of two ends that are not found the first is the reason. -/
theorem range_edit_judged_sample :
    (Buffer.ofString "a\n😀").apply ⟨some ⟨⟨2, 0⟩, ⟨1, 2⟩⟩, "é"⟩ = .ok (.ofString "a\n😀é")
    ∧ (Buffer.ofString "a\n😀").apply ⟨some ⟨⟨1, 1⟩, ⟨9, 0⟩⟩, "é"⟩
        = .error (.misalignedSurrogate ⟨1, 1⟩)
    ∧ endingWorkspace.perform ⟨⟨"file", none, .rooted ["end.yaml"], none, none⟩,
          .change 2 [⟨some ⟨⟨2, 0⟩, ⟨1, 0⟩⟩, "é"⟩]⟩
        = (.plain (.failed (.buffer (.invertedRange ⟨2, 0⟩ ⟨1, 0⟩))), endingWorkspace) := by
  have hsize : (Utf8.ofString "a\n😀").length < 2 ^ 32 := by decide +kernel
  refine ⟨?_, ?_, ?_⟩
  · have hjudged := (range_edit_judged _ hsize ⟨⟨2, 0⟩, ⟨1, 2⟩⟩ "é").1
    exact hjudged.made 6 6 (by decide +kernel) (by decide +kernel) (by decide +kernel)
  · have hjudged := (range_edit_judged _ hsize ⟨⟨1, 1⟩, ⟨9, 0⟩⟩ "é").1
    exact hjudged.start _ (by decide +kernel)
  · have hjudged := range_edit_judged _ hsize ⟨⟨2, 0⟩, ⟨1, 0⟩⟩ "é"
    have hopen : endingWorkspace.find? ⟨"file", none, .rooted ["end.yaml"], none, none⟩
        = some (.ofBuffer (.ofString "a\n😀") 1) := by
      decide +kernel
    refine (hjudged.2 _ _ _ 2 hopen rfl).1 _ ?_
    exact (hjudged.1.order 6 2 (by decide +kernel) (by decide +kernel)).mpr (by decide +kernel)

/-! ## §4. Batches. -/

/-- A batch that fails at one of its edits answers the error of that edit
and leaves everything as it was.  A batch whose edits are all made one
after another leaves the buffer of the last one with the new version and
no outline.  One of the two is the case, and edits that are all made can
as well be made in two batches. -/
theorem change_atomic (d : Document) (version : Int32) (edits : List Edit) :
    (∀ k err, d.buffer.FailsAt edits k err →
      d.change version edits = .error err
      ∧ ∀ (w : Workspace) (uri : Uri), w.find? uri = some d →
        w.perform ⟨uri, .change version edits⟩ = (.plain (.failed (.buffer err)), w))
    ∧ (∀ b, d.buffer.Made edits b →
      d.change version edits = .ok ⟨b, version, none⟩
      ∧ ∀ (w : Workspace) (uri : Uri), w.find? uri = some d →
        w.perform ⟨uri, .change version edits⟩ = (.plain .done, w.put uri ⟨b, version, none⟩))
    ∧ ((∃ k err, d.buffer.FailsAt edits k err) ∨ ∃ b, d.buffer.Made edits b)
    ∧ ∀ front back b, edits = front ++ back → d.buffer.Made edits b → ∀ version',
        ∃ half, d.change version' front = .ok half ∧ half.change version back = d.change version edits
          ∧ d.change version edits = .ok ⟨b, version, none⟩ := by
  refine ⟨?_, ?_, d.buffer.failsAt_or_made edits, ?_⟩
  · intro k err hfails
    refine ⟨Document.change_of_error hfails.applyAll version, ?_⟩
    intro w uri hopen
    exact perform_change_error hopen hfails.applyAll version
  · intro b hmade
    refine ⟨Document.change_of_applyAll hmade.applyAll version, ?_⟩
    intro w uri hopen
    exact perform_change_ok hopen hmade.applyAll version
  · intro front back b hsplit hmade version'
    have hall := Document.change_of_applyAll hmade.applyAll version
    subst hsplit
    obtain ⟨mid, hfront, hback⟩ := hmade.split
    refine ⟨⟨mid, version', none⟩, Document.change_of_applyAll hfront.applyAll version', ?_, hall⟩
    rw [hall]
    show (Document.mk mid version' none).change version back = _
    exact Document.change_of_applyAll hback.applyAll version

/-- A text goes in, the whole is replaced, another text goes in, and the
fourth edit names a line that is no longer there. -/
def fourEdits : List Edit :=
  [⟨some ⟨⟨3, 2⟩, ⟨3, 2⟩⟩, "é"⟩, ⟨none, "x\ny"⟩, ⟨some ⟨⟨1, 1⟩, ⟨1, 1⟩⟩, "z"⟩,
    ⟨some ⟨⟨3, 2⟩, ⟨3, 2⟩⟩, "w"⟩]

/-- A document that has been read. -/
def readDocument : Document :=
  ⟨.ofString "a:\nb:\nc:\n😀", 1, some (.parse "a:\nb:\nc:\n😀".toList)⟩

/-- The four edits are refused together; the first three are made, at once
or in two batches. -/
theorem change_atomic_sample :
    (readDocument.buffer.FailsAt fourEdits 3 (.outOfRange ⟨3, 2⟩)
      ∧ readDocument.change 2 fourEdits = .error (.outOfRange ⟨3, 2⟩))
    ∧ readDocument.change 2 (fourEdits.take 3) = .ok ⟨.ofString "x\nyz", 2, none⟩
    ∧ ∃ half, readDocument.change 5 (fourEdits.take 1) = .ok half
      ∧ half.change 2 ((fourEdits.take 3).drop 1) = .ok ⟨.ofString "x\nyz", 2, none⟩ := by
  have hmade : readDocument.buffer.Made (fourEdits.take 3) (.ofString "x\nyz") :=
    Buffer.made_of_applyAll (by decide +kernel)
  have hfails : readDocument.buffer.FailsAt fourEdits 3 (.outOfRange ⟨3, 2⟩) :=
    ⟨_, _, rfl, hmade, by decide +kernel⟩
  obtain ⟨-, hall, -, htwo⟩ := change_atomic readDocument 2 (fourEdits.take 3)
  obtain ⟨half, hhalf, hrest, hwhole⟩ :=
    htwo (fourEdits.take 1) ((fourEdits.take 3).drop 1) _ rfl hmade 5
  exact ⟨⟨hfails, ((change_atomic readDocument 2 fourEdits).1 _ _ hfails).1⟩,
    (hall _ hmade).1, half, hhalf, hrest.trans hwhole⟩

end Workspace

end DocNav
