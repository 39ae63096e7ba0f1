/-
  DocNav.Proofs.Workspace.Editor
  ──────────────────────────────
  An editor and a workspace that hold the same text.

  The editor keeps a text as characters and changes it by character index.
  It tells the workspace of each change by positions in the text as it
  stood before that change.  As long as the text stays below 2^32 bytes,
  every batch it sends is made, and after every batch the two texts are
  equal.  The simulation is one change (`apply_describe`), then a batch
  (`applyAll_describeAll`), then a session (`run_steps`).
-/
import DocNav.Workspace.Operation
import DocNav.Proofs.Buffer.Edit

namespace DocNav.Editor

open Utf8

/-! ## §1. The editor's side. -/

/-- A change that the editor makes in its own text. -/
inductive Change where
  /-- Replace the characters from index `start` up to index `stop`. -/
  | replace (start stop : Nat) (text : List Char)
  /-- Replace everything. -/
  | whole (text : List Char)
  deriving Repr, DecidableEq

namespace Change

/-- The text after a change. -/
def apply (cs : List Char) : Change → List Char
  | .replace start stop text => cs.take start ++ text ++ cs.drop stop
  | .whole text => text

/-- The indices of a change lie within the text, in order. -/
def Within (cs : List Char) : Change → Prop
  | .replace start stop _ => start ≤ stop ∧ stop ≤ cs.length
  | .whole _ => True

instance (cs : List Char) (c : Change) : Decidable (c.Within cs) :=
  match c with
  | .replace start stop _ => inferInstanceAs (Decidable (start ≤ stop ∧ stop ≤ cs.length))
  | .whole _ => inferInstanceAs (Decidable True)

/-- The edit that tells of a change of the given text. -/
def describe (cs : List Char) : Change → Edit
  | .replace start stop text =>
      ⟨some ⟨.after (cs.take start), .after (cs.take stop)⟩, String.ofList text⟩
  | .whole text => ⟨none, String.ofList text⟩

end Change

/-- The text after some changes. -/
def applyAll (cs : List Char) (changes : List Change) : List Char :=
  changes.foldl Change.apply cs

/-- The edits that tell of some changes, each by the text it was made in. -/
def describeAll (cs : List Char) : List Change → List Edit
  | [] => []
  | c :: changes => c.describe cs :: describeAll (c.apply cs) changes

/-- Every change lies within the text it is made in, and no text on the way
has 2^32 bytes or more. -/
def Stays (cs : List Char) : List Change → Prop
  | [] => (encodeAll cs).length < 2 ^ 32
  | c :: changes => (encodeAll cs).length < 2 ^ 32 ∧ c.Within cs ∧ Stays (c.apply cs) changes

instance decidableStays : (cs : List Char) → (changes : List Change) → Decidable (Stays cs changes)
  | cs, [] => inferInstanceAs (Decidable ((encodeAll cs).length < 2 ^ 32))
  | cs, c :: changes =>
      have := decidableStays (c.apply cs) changes
      inferInstanceAs (Decidable (_ ∧ _ ∧ _))

/-- A batch of changes and the version it leads to. -/
structure Batch where
  version : Int32
  changes : List Change
  deriving Repr, DecidableEq

/-- What the editor asks of the workspace for some batches: to make each of
them, and then for the text. -/
def steps (uri : Uri) (cs : List Char) : List Batch → List Step
  | [] => []
  | b :: batches =>
      ⟨uri, .change b.version (describeAll cs b.changes)⟩ :: ⟨uri, .text⟩
        :: steps uri (applyAll cs b.changes) batches

/-- What it should be told: each batch is made, and the text is its own. -/
def answers (cs : List Char) : List Batch → List Outcome
  | [] => []
  | b :: batches =>
      .done :: .text (some (String.ofList (applyAll cs b.changes)))
        :: answers (applyAll cs b.changes) batches

/-! ## §2. One change and a batch of them. -/

theorem stays_append {cs : List Char} {xs ys : List Change} (h : Stays cs (xs ++ ys)) :
    Stays cs xs ∧ Stays (applyAll cs xs) ys := by
  induction xs generalizing cs with
  | nil =>
    refine ⟨?_, h⟩
    cases ys with
    | nil => exact h
    | cons c ys => exact h.1
  | cons c xs ih =>
    obtain ⟨hsize, hwithin, hrest⟩ := h
    obtain ⟨hxs, hys⟩ := ih hrest
    exact ⟨⟨hsize, hwithin, hxs⟩, hys⟩

/-- A place in the editor's text is found where the bytes before it end. -/
theorem offsetOf_after_take {cs : List Char} (hsize : (encodeAll cs).length < 2 ^ 32) (i : Nat) :
    (Buffer.ofBytes (encodeAll cs)).offsetOf (.after (cs.take i))
      = .ok (encodeAll (cs.take i)).length := by
  have h : (encodeAll (cs.take i ++ cs.drop i)).length < 2 ^ 32 := by
    rw [List.take_append_drop]
    exact hsize
  have hoffset := Buffer.offsetOf_after h
  rw [List.take_append_drop] at hoffset
  exact hoffset

/-- **One change**: the edit that tells of it does the same to the bytes. -/
theorem apply_describe {cs : List Char} {c : Change} (hsize : (encodeAll cs).length < 2 ^ 32)
    (hwithin : c.Within cs) :
    (Buffer.ofBytes (encodeAll cs)).apply (c.describe cs)
      = .ok (Buffer.ofBytes (encodeAll (c.apply cs))) := by
  cases c with
  | whole text =>
    show Except.ok (Buffer.ofBytes (encodeAll (String.ofList text).toList)) = _
    rw [String.toList_ofList]
    rfl
  | replace start stop text =>
    obtain ⟨horder, hstop⟩ := hwithin
    -- Indices in order are byte offsets in order.
    have hle : (encodeAll (cs.take start)).length ≤ (encodeAll (cs.take stop)).length := by
      have hprefix : cs.take start = (cs.take stop).take start := by
        rw [List.take_take, Nat.min_eq_left horder]
      conv_rhs => rw [← List.take_append_drop start (cs.take stop), ← hprefix, encodeAll_append,
        List.length_append]
      omega
    have hsplit : cs.take start ++ cs.drop start = cs.take stop ++ cs.drop stop := by
      rw [List.take_append_drop, List.take_append_drop]
    have hsplice := Buffer.splice_encodeAll text hsplit
    rw [List.take_append_drop] at hsplice
    show (Buffer.ofBytes (encodeAll cs)).apply ⟨some ⟨_, _⟩, _⟩ = _
    rw [Buffer.apply_of_offsets (offsetOf_after_take hsize start) (offsetOf_after_take hsize stop)
      hle]
    show Except.ok ((Buffer.ofBytes (encodeAll cs)).splice _ _
      (encodeAll (String.ofList text).toList)) = _
    rw [String.toList_ofList, hsplice]
    rfl

/-- **A batch**: the edits that tell of it are made and leave the bytes of
the editor's text. -/
theorem applyAll_describeAll {cs : List Char} {changes : List Change} (h : Stays cs changes) :
    (Buffer.ofBytes (encodeAll cs)).applyAll (describeAll cs changes)
      = .ok (Buffer.ofBytes (encodeAll (applyAll cs changes))) := by
  unfold Buffer.applyAll
  induction changes generalizing cs with
  | nil => rfl
  | cons c changes ih =>
    obtain ⟨hsize, hwithin, hrest⟩ := h
    rw [describeAll, List.foldlM_cons, apply_describe hsize hwithin]
    exact ih hrest

/-! ## §3. A session. -/

/-- The workspace holds the editor's text at an address. -/
def Holds (w : Workspace) (uri : Uri) (cs : List Char) : Prop :=
  ∃ version cached, w.find? uri = some ⟨.ofBytes (encodeAll cs), version, cached⟩

theorem holds_openDocument (w : Workspace) (uri : Uri) (cs : List Char) (version : Int32) :
    Holds (w.openDocument uri (String.ofList cs) version) uri cs := by
  refine ⟨version, none, ?_⟩
  show (w.put uri (.ofBuffer (.ofBytes (encodeAll (String.ofList cs).toList)) version)).find? uri = _
  rw [Workspace.find?_put, if_pos rfl, String.toList_ofList]
  rfl

theorem text?_of_holds {w : Workspace} {uri : Uri} {cs : List Char} (h : Holds w uri cs) :
    w.text? uri = some (String.ofList cs) := by
  obtain ⟨version, cached, hfind⟩ := h
  unfold Workspace.text?
  rw [hfind]
  show some (String.ofList (lossy (encodeAll cs))) = _
  rw [lossy_encodeAll]

/-- A batch of the editor's changes is made in the workspace. -/
theorem change_of_holds {w : Workspace} {uri : Uri} {cs : List Char} {changes : List Change}
    (h : Holds w uri cs) (hstays : Stays cs changes) (version : Int32) :
    ∃ w', w.change uri version (describeAll cs changes) = .ok w'
      ∧ Holds w' uri (applyAll cs changes) := by
  obtain ⟨old, cached, hfind⟩ := h
  refine ⟨w.put uri ⟨.ofBytes (encodeAll (applyAll cs changes)), version, none⟩, ?_, ?_⟩
  · unfold Workspace.change
    simp only [hfind, Document.change, applyAll_describeAll hstays]
    rfl
  · refine ⟨version, none, ?_⟩
    rw [Workspace.find?_put, if_pos rfl]

theorem run_steps {w : Workspace} {uri : Uri} {cs : List Char} {batches : List Batch}
    (h : Holds w uri cs) (hstays : Stays cs (batches.flatMap Batch.changes)) :
    (w.run (steps uri cs batches)).1.map Performed.outcome = answers cs batches := by
  induction batches generalizing w cs with
  | nil => rfl
  | cons b batches ih =>
    rw [List.flatMap_cons] at hstays
    -- A batch is two steps: it is made, and the text is asked for.
    obtain ⟨hbatch, hrest⟩ := stays_append hstays
    obtain ⟨w', hchange, hholds⟩ := change_of_holds h hbatch b.version
    have hperform : w.perform ⟨uri, .change b.version (describeAll cs b.changes)⟩
        = (.plain .done, w') := by
      simp only [Workspace.perform, hchange]
    have htext : w'.perform ⟨uri, .text⟩
        = (.plain (.text (some (String.ofList (applyAll cs b.changes)))), w') := by
      simp only [Workspace.perform, text?_of_holds hholds]
    simp only [steps, Workspace.run, hperform, htext, List.map_cons, ih hholds hrest]
    rfl

/-- **A session**: a document is opened with the editor's text, and then
batches of the editor's changes are sent.  Every batch is made, and after
every batch the text of the document is the editor's text. -/
theorem run_session (w : Workspace) (uri : Uri) (cs : List Char) (version : Int32)
    (batches : List Batch) (h : Stays cs (batches.flatMap Batch.changes)) :
    (w.run (⟨uri, .openDocument (String.ofList cs) version⟩ :: steps uri cs batches)).1.map
        Performed.outcome
      = .done :: answers cs batches := by
  have hopen : w.perform ⟨uri, .openDocument (String.ofList cs) version⟩
      = (.plain .done, w.openDocument uri (String.ofList cs) version) := rfl
  simp only [Workspace.run, hopen, List.map_cons,
    run_steps (holds_openDocument w uri cs version) h]
  rfl

/-- Three batches: two changes around a surrogate pair, none, and a new text. -/
def sampleBatches : List Batch :=
  [⟨2, [.replace 1 2 ['é', '\n'], .replace 3 5 ['😀']]⟩,
    ⟨3, []⟩,
    ⟨4, [.whole ['\n'], .replace 1 1 ['c']]⟩]

theorem run_session_sample :
    Stays ['a', '😀', '\n', 'b'] (sampleBatches.flatMap Batch.changes)
      ∧ (Workspace.empty.run (⟨⟨"file", none, .rooted ["api.yaml"], none, none⟩,
            .openDocument (String.ofList ['a', '😀', '\n', 'b']) 1⟩
          :: steps ⟨"file", none, .rooted ["api.yaml"], none, none⟩ ['a', '😀', '\n', 'b']
            sampleBatches)).1.map Performed.outcome
        = [.done, .done, .text (some "aé\n😀"), .done, .text (some "aé\n😀"), .done,
            .text (some "\nc")] := by
  have hstays : Stays ['a', '😀', '\n', 'b'] (sampleBatches.flatMap Batch.changes) := by decide
  refine ⟨hstays, ?_⟩
  rw [run_session _ _ _ _ _ hstays]
  decide

end DocNav.Editor
