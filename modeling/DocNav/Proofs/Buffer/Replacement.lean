/-
  DocNav.Proofs.Buffer.Replacement
  ────────────────────────────────
  A batch of edits from the back of a text to its front.

  A position is found by the bytes before it alone
  (`offsetOf_append_congr`), so an edit that is made further back does not
  disturb it.  Edits that are given from back to front can therefore be
  made one after another with the positions they had at first
  (`applyAll_take`), and what they leave is the text with all their spans
  replaced at once (`applyAll_backToFront`).
-/
import DocNav.Document
import DocNav.Proofs.Buffer.Edit

namespace DocNav

open Utf8 Utf16 Text LineIndex

/-! ## §1. Replacing several spans at once. -/

/-- A span of a text, by its offsets, and the bytes that take its place. -/
structure Replacement where
  start : Nat
  stop : Nat
  new : List UInt8
  start_le_stop : start ≤ stop

/-- The text from `offset` on with all the spans replaced at once, the
spans given from front to back.  What stands between the spans is copied
from the text, and what stands in them is passed over. -/
def replaceAll (bs : List UInt8) (offset : Nat) : List Replacement → List UInt8
  | [] => bs.drop offset
  | r :: rs => (bs.take r.start).drop offset ++ r.new ++ replaceAll bs r.stop rs

/-- The second span ends before the first one starts, or where it starts. -/
def Replacement.Behind (r r' : Replacement) : Prop :=
  r'.stop ≤ r.start

instance : IsTrans Replacement Replacement.Behind where
  trans := by
    intro r r' r'' h h'
    have hr' := r'.start_le_stop
    unfold Replacement.Behind at h h' ⊢
    omega

/-- The last span splits the text: all other spans lie before it. -/
theorem replaceAll_concat (bs : List UInt8) {rs : List Replacement} {r : Replacement}
    (h : ∀ x ∈ rs, x.start ≤ r.start) (offset : Nat) :
    replaceAll bs offset (rs ++ [r])
      = replaceAll (bs.take r.start) offset rs ++ r.new ++ bs.drop r.stop := by
  induction rs generalizing offset with
  | nil => rfl
  | cons x xs ih =>
    rw [List.forall_mem_cons] at h
    show (bs.take x.start).drop offset ++ x.new ++ replaceAll bs x.stop (xs ++ [r]) = _
    rw [ih h.2]
    show _ = ((bs.take r.start).take x.start).drop offset ++ x.new
      ++ replaceAll (bs.take r.start) x.stop xs ++ r.new ++ bs.drop r.stop
    rw [List.take_take, Nat.min_eq_left h.1]
    simp only [List.append_assoc]

namespace Buffer

/-! ## §2. What comes later does not matter. -/

/-- A position is found by the bytes before it alone. -/
theorem offsetOf_append_congr {front back : List UInt8} {p : Position} {o : Nat}
    (hsize : (front ++ back).length < 2 ^ 32)
    (h : (ofBytes (front ++ back)).offsetOf p = .ok o)
    (hp : ¬ (ofBytes (front ++ back)).AfterLast p) (ho : o ≤ front.length)
    (back' : List UInt8) : (ofBytes (front ++ back')).offsetOf p = .ok o := by
  obtain ⟨lines, cs, rest, hsplit, hlines, hcs, hline, rfl, hcolumn⟩ := offsetOf_eq_ok_parts h hp
  -- The lines before the position and its own line up to it are a part of `front`.
  have hprefix : lines ++ encodeAll cs <+: front := by
    refine List.prefix_of_prefix_length_le ⟨rest, hsplit.symm⟩ (List.prefix_append _ back) ?_
    rw [List.length_append]
    exact ho
  obtain ⟨between, rfl⟩ := hprefix
  rw [List.append_assoc, List.append_assoc, offsetOf_append hlines hline,
    seek_encodeAll hcs (hcolumn hsize)]

/-- The edit asks for the replacement: its ends are found where the span
starts and stops, and neither is the line after the last one. -/
structure Asks (b : Buffer) (e : Edit) (r : Replacement) : Prop where
  range : ∃ range, e.range = some range
    ∧ b.offsetOf range.start = .ok r.start ∧ ¬ b.AfterLast range.start
    ∧ b.offsetOf range.stop = .ok r.stop ∧ ¬ b.AfterLast range.stop
  new : Utf8.ofString e.text = r.new

theorem Asks.stop_le_length {bs : List UInt8} {e : Edit} {r : Replacement}
    (h : (ofBytes bs).Asks e r) (hsize : bs.length < 2 ^ 32) : r.stop ≤ bs.length := by
  obtain ⟨range, -, -, -, hstop, hstop'⟩ := h.range
  exact (positionOf_of_offsetOf hsize hstop hstop').1

/-- An edit is made with the positions it had before the text behind it
was changed. -/
theorem apply_take {bs : List UInt8} (hsize : bs.length < 2 ^ 32) {e : Edit} {r : Replacement}
    (h : (ofBytes bs).Asks e r) {m : Nat} (hr : r.stop ≤ m) (hm : m ≤ bs.length)
    (tail : List UInt8) :
    (ofBytes (bs.take m ++ tail)).apply e
      = .ok (ofBytes (bs.take r.start ++ (r.new ++ ((bs.take m).drop r.stop ++ tail)))) := by
  obtain ⟨range, hrange, hstart, hstart', hstop, hstop'⟩ := h.range
  have hle := r.start_le_stop
  have hlength : (bs.take m).length = m := List.length_take_of_le hm
  have hsplit : bs.take m ++ bs.drop m = bs := List.take_append_drop m bs
  rw [← hsplit] at hsize hstart hstart' hstop hstop'
  have hfirst := offsetOf_append_congr hsize hstart hstart' (by omega) tail
  have hsecond := offsetOf_append_congr hsize hstop hstop' (by omega) tail
  have htake : (bs.take m ++ tail).take r.start = bs.take r.start := by
    rw [List.take_append_of_le_length (by omega), List.take_take, Nat.min_eq_left (by omega)]
  have hdrop : (bs.take m ++ tail).drop r.stop = (bs.take m).drop r.stop ++ tail :=
    List.drop_append_of_le_length (by omega)
  obtain ⟨range', text⟩ := e
  obtain rfl : range' = some range := hrange
  rw [apply_of_offsets hfirst hsecond hle, ← h.new]
  show Except.ok (ofBytes ((bs.take m ++ tail).take r.start ++ Utf8.ofString text
    ++ (bs.take m ++ tail).drop r.stop)) = _
  rw [htake, hdrop, List.append_assoc]

/-! ## §3. Batches. -/

/-- Edits in front of `m`, each behind the next one, replace their spans of
the text up to `m` at once, whatever has become of the text behind it. -/
theorem applyAll_take {bs : List UInt8} (hsize : bs.length < 2 ^ 32) {edits : List Edit}
    {rs : List Replacement} (h : List.Forall₂ (ofBytes bs).Asks edits rs)
    (hbehind : rs.Pairwise Replacement.Behind) {m : Nat} (hm : m ≤ bs.length)
    (hrs : ∀ r ∈ rs, r.stop ≤ m) (tail : List UInt8) :
    (ofBytes (bs.take m ++ tail)).applyAll edits
      = .ok (ofBytes (replaceAll (bs.take m) 0 rs.reverse ++ tail)) := by
  -- One edit leaves the text up to its start as it was, and that is where the others lie.
  induction h generalizing m tail with
  | nil => rfl
  | @cons e r edits rs hasks hrest ih =>
    rw [List.pairwise_cons] at hbehind
    rw [List.forall_mem_cons] at hrs
    have hstart : r.start ≤ m := Nat.le_trans r.start_le_stop hrs.1
    have hfront : ∀ x ∈ rs.reverse, x.start ≤ r.start := by
      intro x hx
      have hx' : x.stop ≤ r.start := hbehind.1 x (List.mem_reverse.mp hx)
      exact Nat.le_trans x.start_le_stop hx'
    unfold applyAll at ih ⊢
    rw [List.foldlM_cons, apply_take hsize hasks hrs.1 hm]
    show edits.foldlM apply (ofBytes (bs.take r.start ++ _)) = _
    rw [ih hbehind.2 (by omega) hbehind.1, List.reverse_cons, replaceAll_concat _ hfront,
      List.take_take, Nat.min_eq_left hstart]
    simp only [List.append_assoc]

/-- Edits of a text that are given from back to front are all made with the
positions they have in it, and replace their spans at once. -/
theorem applyAll_backToFront {bs : List UInt8} (hsize : bs.length < 2 ^ 32) {edits : List Edit}
    {rs : List Replacement} (h : List.Forall₂ (ofBytes bs).Asks edits rs)
    (hbehind : rs.IsChain Replacement.Behind) :
    (ofBytes bs).applyAll edits = .ok (ofBytes (replaceAll bs 0 rs.reverse))
    ∧ ∀ d : Document, d.buffer = ofBytes bs → ∀ version,
        d.change version edits = .ok (.ofBuffer (ofBytes (replaceAll bs 0 rs.reverse)) version) := by
  have hrs : ∀ r ∈ rs, r.stop ≤ bs.length := by
    clear hbehind
    induction h with
    | nil => exact List.forall_mem_nil _
    | cons hasks _ ih => exact List.forall_mem_cons.mpr ⟨hasks.stop_le_length hsize, ih⟩
  have hall := applyAll_take hsize h (List.isChain_iff_pairwise.mp hbehind) (Nat.le_refl _) hrs []
  rw [List.take_length, List.append_nil, List.append_nil] at hall
  refine ⟨hall, ?_⟩
  intro d hd version
  unfold Document.change
  rw [hd, hall]
  rfl

/-- Four edits of `"a😀b\ncd"`: the last letter is replaced, two texts are
put in front of it one after the other, and the first line is cut off
before its last letter and joined to the second. -/
def touchingEdits : List Edit :=
  [⟨some ⟨⟨1, 1⟩, ⟨1, 2⟩⟩, "x\ny"⟩, ⟨some ⟨⟨1, 1⟩, ⟨1, 1⟩⟩, "p"⟩,
    ⟨some ⟨⟨1, 1⟩, ⟨1, 1⟩⟩, "é\n"⟩, ⟨some ⟨⟨0, 3⟩, ⟨1, 0⟩⟩, ""⟩]

/-- What they ask for. -/
def touchingSpans : List Replacement :=
  [⟨8, 9, Utf8.ofString "x\ny", by decide⟩, ⟨8, 8, Utf8.ofString "p", by decide⟩,
    ⟨8, 8, Utf8.ofString "é\n", by decide⟩, ⟨5, 7, Utf8.ofString "", by decide⟩]

theorem applyAll_backToFront_sample :
    List.Forall₂ (ofBytes (Utf8.ofString "a😀b\ncd")).Asks touchingEdits touchingSpans
    ∧ (ofBytes (Utf8.ofString "a😀b\ncd")).applyAll touchingEdits
      = .ok (ofBytes (Utf8.ofString "a😀cé\npx\ny")) := by
  have hasks : List.Forall₂ (ofBytes (Utf8.ofString "a😀b\ncd")).Asks touchingEdits
      touchingSpans := by
    refine .cons ⟨⟨_, rfl, ?_⟩, rfl⟩ (.cons ⟨⟨_, rfl, ?_⟩, rfl⟩ (.cons ⟨⟨_, rfl, ?_⟩, rfl⟩
      (.cons ⟨⟨_, rfl, ?_⟩, rfl⟩ .nil)))
    all_goals decide +kernel
  have hbehind : touchingSpans.IsChain Replacement.Behind := by
    simp only [touchingSpans, List.isChain_cons_cons, List.IsChain.singleton, Replacement.Behind]
    decide
  refine ⟨hasks, ?_⟩
  rw [(applyAll_backToFront (by decide +kernel) hasks hbehind).1]
  decide +kernel

end Buffer

end DocNav
