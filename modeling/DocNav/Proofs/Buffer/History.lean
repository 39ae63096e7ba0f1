/-
  DocNav.Proofs.Buffer.History
  ────────────────────────────
  Whatever was done to a buffer, its line index is that of its text, and
  every offset of the text has its position.

  A call gives a buffer a new text or edits it, and an edit that cannot be
  made leaves it as it was.  Each call keeps a buffer that was made from its
  text (`perform_ofBytes`), so any number of them do (`run_ofBytes`).

  To look an offset up, the starts of the lines are searched for it.  The
  search ends at a line or between two lines, and then the line is taken
  from the index and its bytes from the text.  Here each of these steps is
  made so that it may fail (`positionFrom`).  With the index of a text none
  does, however the search is made (`positionFrom_eq`).
-/
import DocNav.Proofs.Buffer.Edit

namespace DocNav

open Utf16 Text

namespace LineIndex

/-! ## §1. The starts of the lines. -/

/-- Where the newlines of a text stand. -/
def newlineOffsets (bs : List UInt8) : List Nat :=
  (List.range bs.length).filter fun i => bs[i]? = some newline

theorem newlineOffsets_cons (b : UInt8) (bs : List UInt8) :
    newlineOffsets (b :: bs)
      = (if b = newline then [0] else []) ++ (newlineOffsets bs).map (· + 1) := by
  unfold newlineOffsets
  rw [List.length_cons, List.range_succ_eq_map, List.filter_cons, List.filter_map]
  by_cases hb : b = newline <;> simp [hb, Function.comp_def]

/-- A line starts after every newline. -/
theorem startsAfter_eq (offset : Nat) (bs : List UInt8) :
    startsAfter offset bs = (newlineOffsets bs).map (· + offset + 1) := by
  induction bs generalizing offset with
  | nil => rfl
  | cons b bs ih =>
    -- The offsets of the rest are one less than where they stand here.
    have hshift : (newlineOffsets bs).map (· + (offset + 1) + 1)
        = ((newlineOffsets bs).map (· + 1)).map (· + offset + 1) := by
      rw [List.map_map]
      refine List.map_congr_left fun i _ => ?_
      show i + (offset + 1) + 1 = i + 1 + offset + 1
      omega
    rw [newlineOffsets_cons, List.map_append, ← hshift, ← ih, startsAfter]
    split <;> simp

theorem toList_starts_ofBytes (bs : List UInt8) :
    (ofBytes bs).starts.toList = 0 :: (newlineOffsets bs).map (· + 1) := by
  show 0 :: startsAfter 0 bs = _
  rw [startsAfter_eq]

theorem increasing_starts_ofBytes (bs : List UInt8) :
    (ofBytes bs).starts.toList.Pairwise (· < ·) := by
  have hoffsets : (newlineOffsets bs).Pairwise (· < ·) :=
    List.pairwise_lt_range.sublist List.filter_sublist
  rw [toList_starts_ofBytes, List.pairwise_cons]
  constructor
  · intro start hstart
    obtain ⟨i, -, rfl⟩ := List.mem_map.mp hstart
    exact Nat.succ_pos i
  · rw [List.pairwise_map]
    exact hoffsets.imp fun hlt => Nat.succ_lt_succ hlt

/-- A later line starts later. -/
theorem start_lt_start {bs : List UInt8} {line line' start start' : Nat}
    (h : (ofBytes bs).start? line = some start) (h' : (ofBytes bs).start? line' = some start')
    (hlt : line < line') : start < start' := by
  obtain ⟨hline, rfl⟩ := Array.getElem?_eq_some_iff.mp h
  obtain ⟨hline', rfl⟩ := Array.getElem?_eq_some_iff.mp h'
  exact List.pairwise_iff_getElem.mp (increasing_starts_ofBytes bs) line line' hline hline' hlt

/-! ## §2. Searching the starts. -/

/-- How a search for an offset among the starts ends. -/
inductive Search where
  /-- A line starts there. -/
  | found (line : Nat)
  /-- No line does, and so many lines start before it. -/
  | absent (before : Nat)
  deriving Repr, DecidableEq

/-- What a search of the starts may say about an offset. -/
def Search.Right (index : LineIndex) (offset : Nat) : Search → Prop
  | .found line => index.start? line = some offset
  | .absent before => before ≤ index.count ∧ ∀ line start, index.start? line = some start →
      start ≠ offset ∧ (line < before ↔ start < offset)

/-- Where the line of an offset starts. -/
theorem start?_line (bs : List UInt8) (offset : Nat) :
    (ofBytes bs).start? ((bs.take offset).count newline)
      = some (wholePart newline (bs.take offset)).length := by
  have hsplit : wholePart newline (bs.take offset)
      ++ (lastPart newline (bs.take offset) ++ bs.drop offset) = bs := by
    rw [← List.append_assoc, wholePart_append_lastPart, List.take_append_drop]
  have hstart := start?_count (whole_wholePart newline (bs.take offset))
    (lastPart newline (bs.take offset) ++ bs.drop offset)
  rw [hsplit, count_wholePart] at hstart
  exact hstart

theorem exists_start? {bs : List UInt8} {line : Nat} (h : line ≤ bs.count newline) :
    ∃ start, (ofBytes bs).start? line = some start := by
  have hlt : line < (ofBytes bs).starts.size := by
    show line < (ofBytes bs).count
    rw [count_ofBytes]
    omega
  exact ⟨_, Array.getElem?_eq_getElem hlt⟩

theorem count_take_le (bs : List UInt8) (offset : Nat) :
    (bs.take offset).count newline ≤ bs.count newline :=
  (List.take_sublist offset bs).count_le newline

/-- A line that starts at an offset is the line of the offset. -/
theorem eq_of_start?_eq {bs : List UInt8} {line offset : Nat}
    (h : (ofBytes bs).start? line = some offset) : line = (bs.take offset).count newline := by
  have hline := (start_le_iff h offset).mp (Nat.le_refl _)
  have hown := start?_line bs offset
  have hown_le := (start_le_iff hown offset).mpr (Nat.le_refl _)
  -- An earlier line would start before the line of the offset does, and so before the offset.
  by_contra hne
  have hlt := start_lt_start h hown (by omega)
  omega

/-- There is always an answer. -/
theorem exists_right (bs : List UInt8) (offset : Nat) :
    ∃ s : Search, s.Right (ofBytes bs) offset := by
  have hown := start?_line bs offset
  -- The line of the offset starts right there, or the offset stands inside it.
  by_cases hfound : (wholePart newline (bs.take offset)).length = offset
  · rw [hfound] at hown
    exact ⟨.found _, hown⟩
  · refine ⟨.absent ((bs.take offset).count newline + 1), ?_, ?_⟩
    · have hcount := count_take_le bs offset
      rw [count_ofBytes]
      omega
    · intro line start hstart
      have hiff := start_le_iff hstart offset
      have hne : start ≠ offset := by
        rintro rfl
        rw [← eq_of_start?_eq hstart, hstart] at hown
        exact hfound (Option.some.inj hown).symm
      exact ⟨hne, by omega⟩

/-- Between two lines, the earlier one is the line of the offset. -/
theorem eq_of_absent {bs : List UInt8} {before offset : Nat}
    (h : (Search.absent before).Right (ofBytes bs) offset) :
    before = (bs.take offset).count newline + 1 := by
  obtain ⟨hbefore, hsides⟩ := h
  rw [count_ofBytes] at hbefore
  have hcount := count_take_le bs offset
  -- A line starts before the offset exactly when it is no later than those newlines say.
  have hiff : ∀ line, line ≤ bs.count newline →
      (line < before ↔ line ≤ (bs.take offset).count newline) := by
    intro line hline
    obtain ⟨start, hstart⟩ := exists_start? hline
    have hstart_le := start_le_iff hstart offset
    obtain ⟨hne, hside⟩ := hsides line start hstart
    omega
  have hlast := hiff ((bs.take offset).count newline) hcount
  -- With any more lines before the offset, the next one would be among them.
  by_contra hne
  have hnext := hiff ((bs.take offset).count newline + 1) (by omega)
  omega

end LineIndex

namespace Buffer

open LineIndex

/-! ## §3. Positions, step by step. -/

/-- How looking an offset up can go wrong. -/
inductive Fault where
  /-- There is no line before the first one. -/
  | beforeFirst
  /-- The index has no such line. -/
  | noLine (line : Nat)
  /-- The bytes of the line do not stand in this order. -/
  | noSlice (start stop : Nat)
  deriving Repr, DecidableEq

/-- The line that a search ends on: the one that was found, or the one before
the place between two lines. -/
def lineOf : Search → Except Fault Nat
  | .found line => .ok line
  | .absent 0 => .error .beforeFirst
  | .absent (line + 1) => .ok line

/-- The bytes from one offset up to another. -/
def slice (b : Buffer) (start stop : Nat) : Except Fault (List UInt8) :=
  if start ≤ stop ∧ stop ≤ b.bytes.length then .ok ((b.bytes.take stop).drop start)
  else .error (.noSlice start stop)

/-- The position of an offset, by a search of the starts that was made for it. -/
def positionFrom (b : Buffer) (offset : Nat) (search : Search) :
    Except Fault (Except BufferError Position) :=
  if b.bytes.length < offset then .ok (.error (.offsetOutOfRange offset b.bytes.length))
  else
    match lineOf search with
    | .error fault => .error fault
    | .ok line =>
        match b.index.start? line with
        | none => .error (.noLine line)
        | some start =>
            (b.slice start offset).map fun bytes => .ok ⟨line.toUInt32, Utf16.length bytes⟩

/-- Whichever way the search ends, it ends on the line of the offset. -/
theorem lineOf_of_right {bs : List UInt8} {offset : Nat} {search : Search}
    (h : search.Right (LineIndex.ofBytes bs) offset) :
    lineOf search = .ok ((bs.take offset).count newline) := by
  cases search with
  | found line => rw [← eq_of_start?_eq h]; rfl
  | absent before => rw [eq_of_absent h]; rfl

/-- The bytes of the line of an offset up to it. -/
theorem slice_line {bs : List UInt8} {offset : Nat} (h : offset ≤ bs.length) :
    (ofBytes bs).slice (wholePart newline (bs.take offset)).length offset
      = .ok (lastPart newline (bs.take offset)) := by
  have hparts := wholePart_append_lastPart newline (bs.take offset)
  have hlength : (wholePart newline (bs.take offset)).length ≤ offset := by
    have hlengths := congrArg List.length hparts
    rw [List.length_append, List.length_take_of_le h] at hlengths
    omega
  have hdrop : (bs.take offset).drop (wholePart newline (bs.take offset)).length
      = lastPart newline (bs.take offset) := by
    conv_lhs =>
      arg 2
      rw [← hparts]
    rw [List.drop_left]
  unfold slice
  rw [bytes_ofBytes, if_pos ⟨hlength, h⟩, hdrop]

/-- No step goes wrong, and the position is the one that is always given. -/
theorem positionFrom_eq {bs : List UInt8} {offset : Nat} {search : Search}
    (h : search.Right (LineIndex.ofBytes bs) offset) :
    (ofBytes bs).positionFrom offset search = .ok ((ofBytes bs).positionOf offset) := by
  have hstart : (ofBytes bs).index.start? ((bs.take offset).count newline)
      = some (wholePart newline (bs.take offset)).length := start?_line bs offset
  -- Past the end both refuse before anything is searched.
  by_cases hout : bs.length < offset
  · unfold positionFrom positionOf
    rw [bytes_ofBytes, if_pos hout, if_pos hout]
  · have hle : offset ≤ bs.length := by omega
    unfold positionFrom
    rw [positionOf_of_le hle, bytes_ofBytes, if_neg hout]
    simp only [lineOf_of_right h, hstart, slice_line hle]
    rfl

/-! ## §4. Calls. -/

/-- What can be done to a buffer. -/
inductive Call where
  /-- Give it a new text. -/
  | reset (content : List UInt8)
  /-- Edit it. -/
  | edit (e : Edit)
  deriving Repr, DecidableEq

/-- The buffer after a call.  An edit that cannot be made leaves it as it was. -/
def perform (b : Buffer) : Call → Buffer
  | .reset content => ofBytes content
  | .edit e =>
      match b.apply e with
      | .ok b' => b'
      | .error _ => b

/-- The buffer after some calls. -/
def run (b : Buffer) (calls : List Call) : Buffer :=
  calls.foldl perform b

/-- One call leaves a buffer that is made from its text. -/
theorem perform_ofBytes (bs : List UInt8) (call : Call) :
    ∃ bs', (ofBytes bs).perform call = ofBytes bs' := by
  cases call with
  | reset content => exact ⟨content, rfl⟩
  | edit e =>
    cases h : (ofBytes bs).apply e with
    | error err => exact ⟨bs, by simp only [perform, h]⟩
    | ok b =>
      -- A new text or a splice: in both cases the index is made anew.
      have hperform : (ofBytes bs).perform (.edit e) = b := by simp only [perform, h]
      rw [hperform]
      obtain ⟨-, rfl⟩ | ⟨r, start, stop, -, -, -, -, rfl⟩ := apply_eq_ok h
      · exact ⟨_, rfl⟩
      · exact ⟨_, rfl⟩

/-- And so do any number of calls. -/
theorem run_ofBytes (bs : List UInt8) (calls : List Call) :
    ∃ bs', (ofBytes bs).run calls = ofBytes bs' := by
  induction calls generalizing bs with
  | nil => exact ⟨bs, rfl⟩
  | cons call calls ih =>
    obtain ⟨bs', hbs'⟩ := perform_ofBytes bs call
    show ∃ bs', ((ofBytes bs).perform call).run calls = ofBytes bs'
    rw [hbs']
    exact ih bs'

/-- The buffer is the one that is made from its text: its lines start at the
beginning and after every newline, in this order. -/
structure Canonical (b : Buffer) : Prop where
  starts : b.index.starts.toList = 0 :: (newlineOffsets b.bytes).map (· + 1)
  increasing : b.index.starts.toList.Pairwise (· < ·)
  rebuilt : b = ofBytes b.bytes

theorem canonical_ofBytes (bs : List UInt8) : (ofBytes bs).Canonical where
  starts := toList_starts_ofBytes bs
  increasing := increasing_starts_ofBytes bs
  rebuilt := rfl

/-- The position of an offset is found without a fault, and it is that of its
line, by the newlines before it, and of the bytes since the last of them. -/
structure Locates (b : Buffer) (offset : Nat) : Prop where
  searched : ∃ s : Search, s.Right b.index offset
  faultless : ∀ s : Search, s.Right b.index offset →
    b.positionFrom offset s = .ok (b.positionOf offset)
  position : ∃ p, b.positionOf offset = .ok p
    ∧ p.line.toNat = (b.bytes.take offset).count newline
    ∧ p.character = Utf16.length (lastPart newline (b.bytes.take offset))

theorem locates_ofBytes {bs : List UInt8} (hsize : bs.length < 2 ^ 32) {offset : Nat}
    (h : offset ≤ bs.length) : (ofBytes bs).Locates offset where
  searched := exists_right bs offset
  faultless := fun _ hs => positionFrom_eq hs
  position := by
    refine ⟨_, positionOf_of_le h, ?_, rfl⟩
    have hcount := count_take_le bs offset
    have hlength : bs.count newline ≤ bs.length := List.count_le_length
    exact toNat_toUInt32 (by omega)

/-- **The line index is canonical**: after any calls, those that were refused
among them, the lines of a buffer are those of its text, and every offset of
the text has the position that the newlines before it give it. -/
theorem run_canonical (bs : List UInt8) (calls : List Call) :
    ((ofBytes bs).run calls).Canonical
    ∧ (((ofBytes bs).run calls).bytes.length < 2 ^ 32 →
        ∀ offset ≤ ((ofBytes bs).run calls).bytes.length,
          ((ofBytes bs).run calls).Locates offset) := by
  obtain ⟨bs', hbs'⟩ := run_ofBytes bs calls
  rw [hbs']
  exact ⟨canonical_ofBytes bs', fun hsize _ h => locates_ofBytes hsize h⟩

/-- A new text with a byte that is no character, an edit that puts a line with
a pair of surrogates into it, and one that is refused for splitting them. -/
def resetThenEdits : List Call :=
  [.reset [0x61, 0x0A, 0xFF], .edit ⟨some ⟨⟨0, 1⟩, ⟨0, 1⟩⟩, "\n😀"⟩,
    .edit ⟨some ⟨⟨0, 0⟩, ⟨1, 1⟩⟩, "x"⟩]

/-- The refused edit leaves three lines.  Inside the character, on the second
of them, each byte before the offset counts. -/
theorem run_canonical_sample :
    ((ofBytes []).run resetThenEdits).bytes = [0x61, 0x0A, 0xF0, 0x9F, 0x98, 0x80, 0x0A, 0xFF]
    ∧ ((ofBytes []).run resetThenEdits).index.starts.toList = [0, 2, 7]
    ∧ ((ofBytes []).run resetThenEdits).Locates 4
    ∧ ((ofBytes []).run resetThenEdits).positionOf 4 = .ok ⟨1, 2⟩ := by
  have hbytes : ((ofBytes []).run resetThenEdits).bytes
      = [0x61, 0x0A, 0xF0, 0x9F, 0x98, 0x80, 0x0A, 0xFF] := by decide +kernel
  obtain ⟨hcanonical, hlocates⟩ := run_canonical [] resetThenEdits
  have hstarts := hcanonical.starts
  rw [hbytes] at hstarts hlocates
  exact ⟨hbytes, hstarts.trans (by decide +kernel), hlocates (by decide) 4 (by decide),
    by decide +kernel⟩

end Buffer

end DocNav
