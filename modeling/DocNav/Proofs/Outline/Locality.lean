/-
  DocNav.Proofs.Outline.Locality
  ──────────────────────────────
  An edit shows in an outline only where it was made.

  Entries of the lines before an edit are as they were, but for what
  stands below them, because a line is put in its place by the lines
  before it (`untouched_parse`).  Entries of the lines after an edit say
  what they said, on lines that are moved by the newlines that came and
  went (`moved_parse`).  The two meet the edits of a buffer in
  `edit_local`.
-/
import DocNav.Proofs.Buffer.Edit
import DocNav.Proofs.Outline.Pointer

namespace DocNav

open Text Utf8 Utf16

/-! ## §1. The same line elsewhere. -/

/-- The range has the same columns, `shift` lines further on. -/
structure Range.Moved (shift : Int) (r s : Range) : Prop where
  startLine : (s.start.line.toNat : Int) = r.start.line.toNat + shift
  startColumn : s.start.character = r.start.character
  stopLine : (s.stop.line.toNat : Int) = r.stop.line.toNat + shift
  stopColumn : s.stop.character = r.stop.character

/-- A line says the same, `shift` lines further on. -/
structure Item.Moved (shift : Int) (a b : Item) : Prop where
  indent : b.indent = a.indent
  key : b.key = a.key
  value : b.value = a.value
  keyRange : a.keyRange.Moved shift b.keyRange
  valueRange : a.valueRange.Moved shift b.valueRange

/-- What a line says does not depend on its number, and its ranges stand on it. -/
theorem Item.moved_read {line line' : UInt32} {shift : Int}
    (h : (line'.toNat : Int) = line.toNat + shift) (text : List Char) :
    (read line text).Moved shift (read line' text) := by
  have hspan : ∀ start size, (span line text start size).Moved shift (span line' text start size) :=
    fun _ _ => ⟨h, rfl, h, rfl⟩
  rw [read_eq, read_eq]
  split
  · exact ⟨rfl, rfl, rfl, hspan _ _, hspan _ _⟩
  · split
    · exact ⟨rfl, rfl, rfl, hspan _ _, hspan _ _⟩
    · exact ⟨rfl, rfl, rfl, hspan _ _, hspan _ _⟩

namespace Outline

open Builder

/-! ## §2. Lines before a change. -/

/-- What an entry has by its own line and the lines before it. -/
def own (e : Entry) : Item × Option Nat :=
  (e.toItem, e.parent)

/-- Lines that are added later do not change an entry, its children apart. -/
theorem map_own_ofLines_append (front back : List (List Char)) {i : Nat} (h : i < front.length) :
    (Outline.entry? (ofLines (front ++ back)) i).map own
      = (Outline.entry? (ofLines front) i).map own := by
  -- One line at a time: the builder adds an entry at the end and links it to one above.
  show (Outline.entry? (after (front ++ back)).outline i).map own = _
  induction back using List.reverseRecOn with
  | nil =>
    rw [List.append_nil]
    rfl
  | append_singleton back text ih =>
    have hold : i ≠ (after (front ++ back)).outline.size := by
      rw [size_after, List.length_append]
      omega
    rw [← List.append_assoc, after_concat, map_entry?_add (fun _ _ => rfl), if_neg hold, ih]

theorem place?_eq_map_own (o : Outline) (i : Nat) :
    o.place? i = ((o.entry? i).map own).map fun p => (p.2, p.1.key) := by
  rw [Option.map_map]
  rfl

/-- The keys of an entry depend on the places of the lines up to it. -/
theorem Linked.keys_congr {o o' : Outline} (h : o.Linked) (h' : o'.Linked) {i : Nat}
    (hi : i < o.size) (hplace : ∀ j ≤ i, o'.place? j = o.place? j) : o'.keys i = o.keys i := by
  -- The entry above a line is on an earlier line, so its keys are known to agree.
  induction i using Nat.strong_induction_on with
  | _ i ih =>
    obtain ⟨parent, key, hi'⟩ := exists_place? hi
    rw [h.keys_of_place? hi', h'.keys_of_place? ((hplace i (Nat.le_refl i)).trans hi')]
    cases parent with
    | none => rfl
    | some above =>
      have habove := h.nested i above key hi'
      have hkeys := ih above habove (Nat.lt_trans habove hi) fun j hj => hplace j (by omega)
      rw [Option.map_some, Option.map_some, hkeys]

/-- The entry of a line says the same and has the same entry above it and
the same pointer. -/
def Untouched (o o' : Outline) (i : Nat) : Prop :=
  ∃ e e', o.entry? i = some e ∧ o'.entry? i = some e'
    ∧ e'.toItem = e.toItem ∧ e'.parent = e.parent ∧ o'.pointerOf? i = o.pointerOf? i

theorem untouched_ofLines (front back back' : List (List Char)) {i : Nat} (h : i < front.length) :
    Untouched (ofLines (front ++ back)) (ofLines (front ++ back')) i := by
  have hown : ∀ j ≤ i, (Outline.entry? (ofLines (front ++ back')) j).map own
      = (Outline.entry? (ofLines (front ++ back)) j).map own := by
    intro j hj
    have hlt : j < front.length := by omega
    rw [map_own_ofLines_append front back' hlt, map_own_ofLines_append front back hlt]
  have hsize : ∀ lines, i < (ofLines (front ++ lines)).size := by
    intro lines
    rw [size_ofLines, List.length_append]
    omega
  have hkeys : (ofLines (front ++ back')).keys i = (ofLines (front ++ back)).keys i := by
    refine (linked_ofLines _).keys_congr (linked_ofLines _) (hsize back) ?_
    intro j hj
    rw [place?_eq_map_own, place?_eq_map_own, hown j hj]
  obtain ⟨e, he⟩ := exists_entry? (hsize back)
  have he' := hown i (Nat.le_refl i)
  rw [he, Option.map_some, Option.map_eq_some_iff] at he'
  obtain ⟨e', he', hsame⟩ := he'
  injection hsame with hitem hparent
  refine ⟨e, e', he, he', hitem, hparent, ?_⟩
  rw [pointerOf?_of_lt (hsize back), pointerOf?_of_lt (hsize back'), hkeys]

/-- What follows a text does not change the entries of the lines that are
ended in it. -/
theorem untouched_parse (front rest rest' : List Char) {i : Nat} (h : i < front.count '\n') :
    Untouched (parse (front ++ rest)) (parse (front ++ rest')) i := by
  have hsplit : ∀ back, lines (front ++ back)
      = lines (wholePart '\n' front) ++ (lines (front ++ back)).drop (front.count '\n') := by
    intro back
    rw [← take_lines_append front back, List.take_append_drop]
  rw [← length_lines_wholePart] at h
  unfold parse
  rw [hsplit rest, hsplit rest']
  exact untouched_ofLines _ _ _ h

/-! ## §3. Lines after a change. -/

theorem item?_parse (cs : List Char) (i : Nat) :
    (parse cs).item? i = (lines cs)[i]?.map (Item.read i.toUInt32) :=
  item?_ofLines (lines cs) i

/-- Every entry is read from a line of the text. -/
theorem exists_read {cs : List Char} {i : Nat} {e : Entry}
    (h : Outline.entry? (parse cs) i = some e) :
    ∃ text, (lines cs)[i]? = some text ∧ Item.read i.toUInt32 text = e.toItem := by
  have hitem : (parse cs).item? i = some e.toItem := congrArg (Option.map Entry.toItem) h
  rw [item?_parse, Option.map_eq_some_iff] at hitem
  exact hitem

theorem getElem?_lines_append (front back : List Char) (n : Nat) :
    (lines (front ++ back))[front.count '\n' + 1 + n]? = (lines back).tail[n]? := by
  rw [← drop_lines_append front back, List.getElem?_drop]

/-- What stands before a text moves the lines that begin in it by its
newlines, and changes nothing else of what they say. -/
theorem moved_parse {front front' back : List Char}
    (hsize : (encodeAll (front ++ back)).length < 2 ^ 32)
    (hsize' : (encodeAll (front' ++ back)).length < 2 ^ 32) (n : Nat) :
    Option.Rel (Item.Moved ((front'.count '\n' : Int) - front.count '\n'))
      ((parse (front ++ back)).item? (front.count '\n' + 1 + n))
      ((parse (front' ++ back)).item? (front'.count '\n' + 1 + n)) := by
  have hline := getElem?_lines_append front back n
  have hline' := getElem?_lines_append front' back n
  rw [item?_parse, item?_parse, hline, hline']
  cases htext : (lines back).tail[n]? with
  | none => exact .none
  | some text =>
    rw [htext] at hline hline'
    -- Both texts are small enough for their lines to be numbered without wrapping around.
    have hlt := Nat.lt_of_le_of_lt (le_length_of_getElem?_lines hline) hsize
    have hlt' := Nat.lt_of_le_of_lt (le_length_of_getElem?_lines hline') hsize'
    refine .some (Item.moved_read ?_ text)
    rw [toNat_toUInt32 hlt, toNat_toUInt32 hlt']
    omega

/-! ## §4. Edits. -/

/-- An edit that is made leaves the entries of the lines before its first
line as they were, and the entries of the lines after its last line say
what they said: there are as many of them, each moved by the newlines of
the new text less those of the text it replaces. -/
theorem edit_local {bs : List UInt8} {r : Range} {text : String} {b : Buffer} {shift : Int}
    (hvalid : WellFormed bs) (hsize : bs.length < 2 ^ 32) (hsize' : b.bytes.length < 2 ^ 32)
    (hedit : (Buffer.ofBytes bs).apply ⟨some r, text⟩ = .ok b)
    (hstart : ¬ (Buffer.ofBytes bs).AfterLast r.start)
    (hstop : ¬ (Buffer.ofBytes bs).AfterLast r.stop)
    (hshift : shift = text.toList.count '\n' - (r.stop.line.toNat - r.start.line.toNat)) :
    (∀ i < r.start.line.toNat, Untouched (parse (lossy bs)) (parse (lossy b.bytes)) i)
    ∧ ∀ j > r.stop.line.toNat, ∃ j' : Nat, (j' : Int) = j + shift
        ∧ Option.Rel (Item.Moved shift)
            ((parse (lossy bs)).item? j) ((parse (lossy b.bytes)).item? j') := by
  obtain ⟨cs, rfl⟩ := hvalid
  obtain ⟨front, mid, back, rfl, rfl, hfront, hmid⟩ :=
    Buffer.apply_eq_ok_parts hedit hstart hstop
  rw [Buffer.bytes_ofBytes] at hsize'
  rw [Buffer.bytes_ofBytes, lossy_encodeAll, lossy_encodeAll]
  constructor
  · intro i hi
    rw [← hfront] at hi
    rw [List.append_assoc, List.append_assoc]
    exact untouched_parse front _ _ hi
  · intro j hj
    -- Line `j` is the line with number `n` of those that begin after the edit.
    obtain ⟨n, rfl⟩ : ∃ n, j = (front ++ mid).count '\n' + 1 + n :=
      ⟨j - r.stop.line.toNat - 1, by omega⟩
    have hcounts : shift
        = ((front ++ text.toList).count '\n' : Int) - (front ++ mid).count '\n' := by
      rw [hshift, ← hfront, ← hmid, List.count_append, List.count_append]
      push_cast
      omega
    refine ⟨(front ++ text.toList).count '\n' + 1 + n, ?_, ?_⟩
    · rw [hcounts]
      push_cast
      omega
    · rw [hcounts]
      exact moved_parse hsize hsize' n

/-- The text before the edit of the sample. -/
def sampleBefore : String :=
  "a: 1\r\n😀b: 2\nc: x\nd:\n e: 'y'"

/-- The text after it: two lines are joined, and two newlines come in. -/
def sampleAfter : String :=
  "a: 1\r\n😀é:\r\nz\nw: x\nd:\n e: 'y'"

/-- The first line is as it was, and the last one has moved by one line. -/
theorem edit_local_sample :
    (Buffer.ofString sampleBefore).apply ⟨some ⟨⟨1, 2⟩, ⟨2, 1⟩⟩, "é:\r\nz\nw"⟩
        = .ok (.ofString sampleAfter)
      ∧ Untouched (parse sampleBefore.toList) (parse sampleAfter.toList) 0
      ∧ ∃ a b, (parse sampleBefore.toList).item? 4 = some a
        ∧ (parse sampleAfter.toList).item? 5 = some b ∧ a.Moved 1 b := by
  have hedit : (Buffer.ofString sampleBefore).apply ⟨some ⟨⟨1, 2⟩, ⟨2, 1⟩⟩, "é:\r\nz\nw"⟩
      = .ok (.ofString sampleAfter) := by
    decide +kernel
  have hshift : (1 : Int) = "é:\r\nz\nw".toList.count '\n'
      - ((2 : UInt32).toNat - (1 : UInt32).toNat) := by
    decide +kernel
  have hlocal := edit_local ⟨sampleBefore.toList, rfl⟩ (by decide +kernel) (by decide +kernel)
    hedit (by decide +kernel) (by decide +kernel) hshift
  have hafter : lossy (Buffer.ofString sampleAfter).bytes = sampleAfter.toList := lossy_encodeAll _
  rw [lossy_encodeAll, hafter] at hlocal
  refine ⟨hedit, hlocal.1 0 (by decide), ?_⟩
  obtain ⟨line, hline, hmoved⟩ := hlocal.2 4 (by decide)
  obtain rfl : line = 5 := by omega
  obtain ⟨a, ha⟩ : ∃ a, (parse sampleBefore.toList).item? 4 = some a :=
    Option.isSome_iff_exists.mp (by decide +kernel)
  rw [ha] at hmoved
  cases hb : (parse sampleAfter.toList).item? 5 with
  | none =>
    rw [hb] at hmoved
    cases hmoved
  | some b =>
    rw [hb] at hmoved
    cases hmoved with
    | some h => exact ⟨a, b, ha, rfl, h⟩

end Outline

end DocNav
