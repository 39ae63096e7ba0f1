/-
  DocNav.Proofs.Outline.Numbering
  ───────────────────────────────
  The lines of a buffer and the lines of its outline are the same lines.

  A buffer counts newline bytes.  An outline is made of what is read from
  the bytes with a replacement, cut at newlines and without carriage
  returns.  Both have the same lines under the same numbers, but for a
  last line on which nothing stands (`length_lines_lossy`), and what an
  entry says is read from the bytes of its own line alone
  (`trimmed_of_isLine`): a sequence that breaks off at the end of a line
  takes nothing from the next one.
-/
import DocNav.Document
import DocNav.Proofs.Outline.Placement

namespace DocNav

open Utf8 Text LineIndex

namespace Buffer

/-! ## §1. Lines. -/

/-- There is a line for each newline, and one more if something stands after
the last of them. -/
theorem length_lines_lossy (bs : List UInt8) :
    (lines (lossy bs)).length
      = bs.count newline + if lastPart newline bs = [] then 0 else 1 := by
  have hwhole := whole_wholePart newline bs
  have hsingle : '\n' ∉ lossy (lastPart newline bs) := by
    rw [newline_mem_lossy_iff]
    exact not_mem_lastPart newline bs
  -- The lines that are ended are read by themselves, and so is what is left after them.
  have hsplit : lossy bs = lossy (wholePart newline bs) ++ lossy (lastPart newline bs) := by
    rw [← lossy_append_of_whole hwhole, wholePart_append_lastPart]
  rw [hsplit, lines_append_of_whole (whole_lossy hwhole), List.length_append,
    length_lines_of_whole (whole_lossy hwhole), count_lossy, count_wholePart, lines_last hsingle]
  simp only [lossy_eq_nil_iff]
  split <;> rfl

end Buffer

/-! ## §2. Entries. -/

/-- Two items say the same, wherever they stand. -/
structure Item.Agrees (a b : Item) : Prop where
  indent : a.indent = b.indent
  key : a.key = b.key
  value : a.value = b.value

/-- What a line says does not depend on its number. -/
theorem Item.agrees_read (line line' : UInt32) (text : List Char) :
    (read line text).Agrees (read line' text) := by
  have hmoved : (read line' text).Moved (line.toNat - line'.toNat) (read line text) :=
    moved_read (by omega) text
  exact ⟨hmoved.indent, hmoved.key, hmoved.value⟩

namespace Outline

open Buffer

/-- The item says what is read from the line with the given number of the
buffer alone, without the carriage returns that go with its end. -/
def SaidBy (bs : List UInt8) (i : Nat) (item : Item) : Prop :=
  ∃ front line back text, IsLine bs i front line back
    ∧ (Buffer.ofBytes bs).index.start? i = some front.length
    ∧ Trimmed (if back = [] then 1 else 2) (lossy line) text
    ∧ ∀ number, (Item.read number text).Agrees item

theorem saidBy_of_entry? {bs : List UInt8} {i : Nat} {e : Entry}
    (he : Outline.entry? (parse (lossy bs)) i = some e) : SaidBy bs i e.toItem := by
  obtain ⟨text, htext, hread⟩ := exists_read he
  obtain ⟨front, line, back, hline⟩ := exists_isLine_of_getElem?_lines htext
  refine ⟨front, line, back, text, hline, ?_, trimmed_of_isLine hline htext, ?_⟩
  · show (LineIndex.ofBytes bs).start? i = _
    rw [hline.split, List.append_assoc, ← hline.number]
    exact start?_count hline.whole (line ++ back)
  · intro number
    rw [← hread]
    exact Item.agrees_read number i.toUInt32 text

/-- The outline that is made of some bytes when it is first asked for. -/
def firstRead (bs : List UInt8) (version : Int32) : Outline :=
  ((Document.ofBuffer (Buffer.ofBytes bs) version).consult id).value

/-- **The same lines**: the outline of any bytes has an entry for each line
of the buffer, but for the last line if the text is empty or ends with a
newline; and each entry says what is read from its line alone. -/
theorem lines_agree (bs : List UInt8) (version : Int32) :
    (Whole newline bs → (firstRead bs version).size + 1 = (Buffer.ofBytes bs).lineCount)
    ∧ (¬ Whole newline bs → (firstRead bs version).size = (Buffer.ofBytes bs).lineCount)
    ∧ ∀ i < (firstRead bs version).size, ∃ e,
        Outline.entry? (firstRead bs version) i = some e ∧ SaidBy bs i e.toItem := by
  have hcount : (Buffer.ofBytes bs).lineCount = bs.count newline + 1 := count_ofBytes bs
  have hsize : (firstRead bs version).size
      = bs.count newline + if lastPart newline bs = [] then 0 else 1 :=
    (size_ofLines _).trans (length_lines_lossy bs)
  refine ⟨?_, ?_, ?_⟩
  · intro hwhole
    rw [hsize, hcount, if_pos (whole_iff_lastPart_eq_nil.mp hwhole)]
  · intro hbegun
    rw [hsize, hcount, if_neg (fun hnil => hbegun (whole_iff_lastPart_eq_nil.mpr hnil))]
  · intro i hi
    obtain ⟨e, he⟩ := exists_entry? hi
    exact ⟨e, he, saidBy_of_entry? he⟩

/-- A line with three carriage returns, one that breaks off before its
newline, and a last line with two carriage returns. -/
def unevenEnds : List UInt8 :=
  Utf8.ofString "a: 1\r\r\r\n" ++ [0xF0, 0x9F, 0x0A] ++ Utf8.ofString "b: 2\r\r"

/-- All three lines have an entry, and one carriage return stays in two of them. -/
theorem lines_agree_sample :
    (firstRead unevenEnds 1).size = (Buffer.ofBytes unevenEnds).lineCount
    ∧ (firstRead unevenEnds 1).entries.toList.map (·.value) = ["1\r", "", "2\r"]
    ∧ ∃ e, Outline.entry? (firstRead unevenEnds 1) 0 = some e ∧ SaidBy unevenEnds 0 e.toItem := by
  have hbegun : ¬ Whole newline unevenEnds := by
    rw [whole_iff_lastPart_eq_nil]
    decide +kernel
  obtain ⟨-, hsize, hlines⟩ := lines_agree unevenEnds 1
  exact ⟨hsize hbegun, by decide +kernel, hlines 0 (by decide +kernel)⟩

end Outline

end DocNav
