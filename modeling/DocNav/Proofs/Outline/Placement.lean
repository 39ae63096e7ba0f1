/-
  DocNav.Proofs.Outline.Placement
  ───────────────────────────────
  The ranges of an entry delimit its key and its value in the buffer.

  An outline is made of what is read from the bytes with a replacement,
  and its columns are counted in the lines of that text, without their
  carriage returns.  A buffer looks up columns in the bytes themselves.
  No line that is read depends on the bytes of another
  (`getElem?_lines_lossy_newline`, `getElem?_lines_lossy_last`), so on a
  line whose own bytes are well-formed the two agree: a column of its text
  is found after the bytes of the characters before it (`offsetOf_columns`),
  and between two columns stand the bytes of the characters in between
  (`delimits_within`).
-/
import DocNav.Proofs.Text.Lossy
import DocNav.Proofs.Buffer.Lookup
import DocNav.Proofs.Outline.Locality

namespace DocNav

open Utf8 Utf16 Text LineIndex

namespace Buffer

/-! ## §1. Lines as they are read. -/

/-- A line is read as if nothing stood before it. -/
theorem getElem?_lines_lossy {bs front line back : List UInt8} {n : Nat}
    (h : IsLine bs n front line back) :
    (lines (lossy bs))[n]? = (lines (lossy (line ++ back)))[0]? := by
  rw [h.split, List.append_assoc, lossy_append_of_whole h.whole, ← h.number, ← count_lossy front,
    getElem?_lines_of_whole (whole_lossy h.whole)]

theorem IsLine.single_lossy {bs front line back : List UInt8} {n : Nat}
    (h : IsLine bs n front line back) : '\n' ∉ lossy line := by
  rw [newline_mem_lossy_iff]
  exact h.single

/-- What a line says is read from its bytes alone, if a newline ends it. -/
theorem getElem?_lines_lossy_newline {bs front line rest : List UInt8} {n : Nat}
    (h : IsLine bs n front line (newline :: rest)) :
    (lines (lossy bs))[n]? = some (content (lossy line ++ ['\n'])) := by
  rw [getElem?_lines_lossy h, lossy_append_newline, getElem?_lines_newline h.single_lossy]

/-- So is what the last line says; without bytes it says nothing. -/
theorem getElem?_lines_lossy_last {bs front line : List UInt8} {n : Nat}
    (h : IsLine bs n front line []) :
    (lines (lossy bs))[n]? = if lossy line = [] then none else some (content (lossy line)) := by
  rw [getElem?_lines_lossy h, List.append_nil, getElem?_lines_last h.single_lossy]

/-- What stands on a line is read from its bytes alone, and carriage returns
at its end go: two before a newline, one at the end of the text. -/
theorem trimmed_of_isLine {bs front line back : List UInt8} {n : Nat} {text : List Char}
    (hline : IsLine bs n front line back) (h : (lines (lossy bs))[n]? = some text) :
    Trimmed (if back = [] then 1 else 2) (lossy line) text := by
  obtain rfl | ⟨rest, rfl⟩ := hline.ended
  · rw [getElem?_lines_lossy_last hline] at h
    split at h
    · cases h
    · injection h with h
      rw [if_pos rfl, ← h]
      exact trimmed_content_last hline.single_lossy
  · rw [getElem?_lines_lossy_newline hline] at h
    injection h with h
    rw [if_neg (by simp), ← h]
    exact trimmed_content_newline (lossy line)

/-- What a well-formed line says are the first of its characters. -/
theorem exists_append_of_getElem?_lines {bs front back : List UInt8} {n : Nat}
    {cs text : List Char} (hline : IsLine bs n front (encodeAll cs) back)
    (h : (lines (lossy bs))[n]? = some text) : ∃ rest, cs = text ++ rest := by
  obtain ⟨returns, -, hsplit, -⟩ := trimmed_of_isLine hline h
  rw [lossy_encodeAll] at hsplit
  exact ⟨_, hsplit⟩

/-- Every line that says something is a line of the buffer. -/
theorem exists_isLine_of_getElem?_lines {bs : List UInt8} {n : Nat} {text : List Char}
    (h : (lines (lossy bs))[n]? = some text) : ∃ front line back, IsLine bs n front line back := by
  obtain ⟨front, back, hsplit, -, hnumber, -⟩ := getElem?_lines h
  apply exists_isLine
  show n < (LineIndex.ofBytes bs).count
  rw [count_ofBytes, ← count_lossy, hsplit, List.append_assoc, List.count_append]
  omega

/-! ## §2. Columns of a well-formed line. -/

/-- Both ends of the range are found, and the given bytes stand between them. -/
def Delimits (b : Buffer) (r : Range) (bytes : List UInt8) : Prop :=
  ∃ s t, b.offsetOf r.start = .ok s ∧ b.offsetOf r.stop = .ok t ∧ s ≤ t
    ∧ (b.bytes.take t).drop s = bytes

/-- The range goes from a column to a later one, or to the same, of the line
with the given number, and the given bytes stand between them. -/
structure DelimitsOn (b : Buffer) (line : Nat) (r : Range) (bytes : List UInt8) : Prop where
  startLine : r.start.line.toNat = line
  stopLine : r.stop.line.toNat = line
  le : r.start.character ≤ r.stop.character
  delimits : b.Delimits r bytes

/-- The column of some characters of a line is found after their bytes. -/
theorem offsetOf_columns {front back : List UInt8} {cs : List Char} (hfront : Whole newline front)
    (hcs : '\n' ∉ cs) (hsize : (front ++ encodeAll cs ++ back).length < 2 ^ 32) :
    (ofBytes (front ++ encodeAll cs ++ back)).offsetOf
        ⟨(front.count newline).toUInt32, columns cs⟩ = .ok (front ++ encodeAll cs).length := by
  rw [← newline_mem_encodeAll_iff] at hcs
  rw [columns_eq, ← length_encodeAll, List.length_append]
  exact (offsetOf_position_iff hfront hcs back hsize).mpr ⟨cs, rfl⟩

/-- Between two columns of a line stand the bytes of its characters in between. -/
theorem delimits_within {front back : List UInt8} {before chars : List Char}
    (hfront : Whole newline front) (hline : '\n' ∉ before ++ chars)
    (hsize : (front ++ encodeAll (before ++ chars) ++ back).length < 2 ^ 32) :
    (ofBytes (front ++ encodeAll (before ++ chars) ++ back)).Delimits
      (.within (front.count newline).toUInt32 (columns before) (columns (before ++ chars)))
      (encodeAll chars) := by
  have hbefore : '\n' ∉ before := fun hmem => hline (List.mem_append_left chars hmem)
  have hsplit : front ++ encodeAll (before ++ chars) ++ back
      = front ++ encodeAll before ++ (encodeAll chars ++ back) := by
    simp only [encodeAll_append, List.append_assoc]
  have hstart : (ofBytes (front ++ encodeAll (before ++ chars) ++ back)).offsetOf
      ⟨(front.count newline).toUInt32, columns before⟩ = .ok (front ++ encodeAll before).length := by
    rw [hsplit] at hsize ⊢
    exact offsetOf_columns hfront hbefore hsize
  refine ⟨_, _, hstart, offsetOf_columns hfront hline hsize, ?_, ?_⟩
  · simp only [encodeAll_append, List.length_append]
    omega
  · rw [bytes_ofBytes, List.take_left, encodeAll_append, ← List.append_assoc, List.drop_left]

theorem columns_le {cs ds : List Char} (h : (encodeAll (cs ++ ds)).length < 2 ^ 32) :
    columns cs ≤ columns (cs ++ ds) := by
  have hunits := codeUnits_le_length_encodeAll (cs ++ ds)
  rw [codeUnits_append] at hunits
  rw [UInt32.le_iff_toNat_le, columns_eq, columns_eq, codeUnits_append,
    toNat_toUInt32 (by omega), toNat_toUInt32 (by omega)]
  omega

/-- What stands between two columns of a line of the buffer. -/
theorem delimitsOn_within {bs front back : List UInt8} {n : Nat} {before chars after : List Char}
    (hsize : bs.length < 2 ^ 32)
    (hline : IsLine bs n front (encodeAll (before ++ chars ++ after)) back) :
    (ofBytes bs).DelimitsOn n
      (.within n.toUInt32 (columns before) (columns (before ++ chars))) (encodeAll chars) := by
  obtain ⟨rfl, hfront, rfl, hsingle, -⟩ := hline
  rw [newline_mem_encodeAll_iff, List.mem_append, not_or] at hsingle
  have hsplit : front ++ encodeAll (before ++ chars ++ after) ++ back
      = front ++ encodeAll (before ++ chars) ++ (encodeAll after ++ back) := by
    simp only [encodeAll_append, List.append_assoc]
  rw [hsplit] at hsize ⊢
  have hlengths : front.length + (encodeAll (before ++ chars)).length < 2 ^ 32 := by
    simp only [List.length_append] at hsize ⊢
    omega
  have hcount : front.count newline ≤ front.length := List.count_le_length
  have hnumber : (front.count newline).toUInt32.toNat = front.count newline :=
    toNat_toUInt32 (by omega)
  exact ⟨hnumber, hnumber, columns_le (by omega), delimits_within hfront hsingle.1 hsize⟩

end Buffer

namespace Outline

open Buffer

/-! ## §3. Entries. -/

/-- The key and then the value of an item stand on the line with the given
number of the buffer, and its ranges delimit them. -/
structure Placed (b : Buffer) (line : Nat) (item : Item) : Prop where
  key : b.DelimitsOn line item.keyRange (Utf8.ofString item.key)
  /-- The key ends before the value starts, or where it starts. -/
  between : ∃ bytes, b.DelimitsOn line ⟨item.keyRange.stop, item.valueRange.start⟩ bytes
  value : b.DelimitsOn line item.valueRange (Utf8.ofString item.value)

/-- What is laid out on a well-formed line is placed on it. -/
theorem placed_of_laid {bs front back : List UInt8} {n : Nat} {text rest : List Char}
    {item : Item} {before between after : List Char} (hsize : bs.length < 2 ^ 32)
    (hline : IsLine bs n front (encodeAll (text ++ rest)) back)
    (hlaid : Item.Laid n.toUInt32 text item before between after) :
    Placed (ofBytes bs) n item := by
  have hsplit : text ++ rest = before ++ item.key.toList ++ between ++ item.value.toList
      ++ (after ++ rest) := by
    rw [hlaid.split]
    simp only [List.append_assoc]
  -- The same line, cut first around the value, then around what stands between, then around the key.
  rw [hsplit] at hline
  have hvalue := delimitsOn_within hsize hline
  rw [List.append_assoc _ item.value.toList] at hline
  have hbetween := delimitsOn_within hsize hline
  rw [List.append_assoc _ between] at hline
  have hkey := delimitsOn_within hsize hline
  rw [← hlaid.value] at hvalue
  rw [← hlaid.key] at hkey
  refine ⟨hkey, ⟨encodeAll between, ?_⟩, hvalue⟩
  rw [hlaid.key, hlaid.value]
  exact hbetween

/-- **Every entry is placed**: it belongs to a line of the buffer, and if the
bytes of that line are well-formed, whatever the others are, its ranges
delimit its key and its value there. -/
theorem ranges_placed (bs : List UInt8) (hsize : bs.length < 2 ^ 32) (i : Nat) (e : Entry)
    (he : Outline.entry? (parse (lossy bs)) i = some e) :
    (∃ front line back, IsLine bs i front line back)
    ∧ ∀ front line back, IsLine bs i front line back → WellFormed line →
      Placed (ofBytes bs) i e.toItem := by
  obtain ⟨text, htext, hread⟩ := exists_read he
  refine ⟨exists_isLine_of_getElem?_lines htext, ?_⟩
  rintro front line back hline ⟨cs, rfl⟩
  obtain ⟨rest, rfl⟩ := exists_append_of_getElem?_lines hline htext
  obtain ⟨before, between, after, hlaid⟩ := Item.laid_read i.toUInt32 text
  rw [hread] at hlaid
  exact placed_of_laid hsize hline hlaid

/-- A line with a key and a quoted value, between a line that breaks off and
one that holds no character at all. -/
def brokenAround : List UInt8 :=
  [0xE2, 0x0A] ++ Utf8.ofString " 😀: 'é'\r" ++ [0x0A, 0xFF]

/-- The key takes up two units and four bytes, the value one and two. -/
theorem ranges_placed_sample :
    ∃ e, Outline.entry? (parse (lossy brokenAround)) 1 = some e
      ∧ e.toItem = ⟨1, "😀", "é", .within 1 1 3, .within 1 6 7⟩
      ∧ Placed (ofBytes brokenAround) 1 e.toItem := by
  have hline : IsLine brokenAround 1 [0xE2, 0x0A] (Utf8.ofString " 😀: 'é'\r") [0x0A, 0xFF] :=
    ⟨rfl, .inr ⟨[0xE2], rfl⟩, rfl, by decide +kernel, .inr ⟨[0xFF], rfl⟩⟩
  have hitem : (Outline.entry? (parse (lossy brokenAround)) 1).map Entry.toItem
      = some ⟨1, "😀", "é", .within 1 1 3, .within 1 6 7⟩ := by decide +kernel
  obtain ⟨e, he, hread⟩ := Option.map_eq_some_iff.mp hitem
  refine ⟨e, he, hread, ?_⟩
  exact (ranges_placed brokenAround (by decide +kernel) 1 e he).2 _ _ _ hline ⟨_, rfl⟩

end Outline

end DocNav
