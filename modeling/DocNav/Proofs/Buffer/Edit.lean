/-
  DocNav.Proofs.Buffer.Edit
  ─────────────────────────
  Edits of well-formed text.

  The positions of a well-formed text are the places between its
  characters: the place after some of them is found where their bytes end
  (`offsetOf_after`), and nothing else is ever found (`offsetOf_eq_ok`).
  So an edit that is made replaces whole characters, and what it leaves is
  well-formed again (`applyAll_encodeAll`).  A batch is not made because of
  one of its edits (`applyAll_eq_error_iff`), and never because of a byte
  that is out of place.
-/
import DocNav.Buffer.Edit
import DocNav.Proofs.Buffer.Position

namespace DocNav

open Utf8 Utf16 Text LineIndex

/-- The position after a text: the number of its newlines, and the code
units since the last of them. -/
def Position.after (cs : List Char) : Position :=
  ⟨(cs.count '\n').toUInt32, (codeUnits (lastPart '\n' cs)).toUInt32⟩

namespace Buffer

/-! ## §1. Places between characters. -/

/-- The position after some characters of a text is where their bytes end. -/
theorem offsetOf_after {cs ds : List Char} (hsize : (encodeAll (cs ++ ds)).length < 2 ^ 32) :
    (ofBytes (encodeAll (cs ++ ds))).offsetOf (.after cs) = .ok (encodeAll cs).length := by
  have hparts : encodeAll (wholePart '\n' cs) ++ encodeAll (lastPart '\n' cs) = encodeAll cs := by
    rw [← encodeAll_append, wholePart_append_lastPart]
  have hlengths := congrArg List.length hparts
  have hunits := codeUnits_le_length_encodeAll (lastPart '\n' cs)
  have hcount : cs.count '\n' ≤ (encodeAll cs).length := by
    rw [← count_encodeAll]
    exact List.count_le_length
  rw [encodeAll_append, List.length_append] at hsize
  rw [List.length_append] at hlengths
  have hline : (Position.after cs).line.toNat
      = (encodeAll (wholePart '\n' cs)).count newline := by
    rw [count_encodeAll, count_wholePart]
    exact toNat_toUInt32 (by omega)
  have hcolumn : (Position.after cs).character.toNat = codeUnits (lastPart '\n' cs) :=
    toNat_toUInt32 (by omega)
  rw [encodeAll_append, ← hparts, List.append_assoc,
    offsetOf_append (whole_encodeAll (whole_wholePart _ cs)) hline,
    seek_encodeAll (not_mem_lastPart _ cs) hcolumn, List.length_append]

/-- A whole part at the front of well-formed text is well-formed. -/
theorem exists_encodeAll_of_whole {front back : List UInt8} {cs : List Char}
    (hfront : Whole newline front) (h : front ++ back = encodeAll cs) :
    ∃ ds es, cs = ds ++ es ∧ front = encodeAll ds := by
  have hle : front.count newline ≤ cs.count '\n' := by
    rw [← count_encodeAll, ← h, List.count_append]
    omega
  obtain ⟨ds, es, rfl, hds, hcount⟩ := exists_whole_of_le_count '\n' hle
  -- The line after `front` starts at one place only.
  have hstart := start?_count hfront back
  have hstart' := start?_count (whole_encodeAll hds) (encodeAll es)
  rw [count_encodeAll, hcount, ← encodeAll_append, ← h, hstart] at hstart'
  rw [encodeAll_append] at h
  exact ⟨ds, es, rfl, (List.append_inj h (Option.some.inj hstart')).1⟩

/-- A position that is found lies between two characters, on the line that
it names. -/
theorem offsetOf_eq_ok_count {cs : List Char} {p : Position} {o : Nat}
    (h : (ofBytes (encodeAll cs)).offsetOf p = .ok o)
    (hp : ¬ (ofBytes (encodeAll cs)).AfterLast p) :
    ∃ ds es, cs = ds ++ es ∧ o = (encodeAll ds).length ∧ ds.count '\n' = p.line.toNat := by
  obtain ⟨front, fs, back, hsplit, hfront, hfs, hline, rfl, -⟩ := offsetOf_eq_ok_parts h hp
  rw [List.append_assoc] at hsplit
  -- Both the lines before it and the characters passed over are well-formed.
  obtain ⟨ds, es, rfl, rfl⟩ := exists_encodeAll_of_whole hfront hsplit.symm
  rw [encodeAll_append, List.append_cancel_left_eq] at hsplit
  obtain ⟨gs, rfl, -⟩ := encodeAll_append_eq_encodeAll hsplit.symm
  refine ⟨ds ++ fs, gs, by simp, by simp, ?_⟩
  rw [List.count_append, List.count_eq_zero_of_not_mem hfs, hline, count_encodeAll, Nat.add_zero]

/-- Any position that is found lies between two characters. -/
theorem offsetOf_eq_ok {cs : List Char} {p : Position} {o : Nat}
    (h : (ofBytes (encodeAll cs)).offsetOf p = .ok o) :
    ∃ ds es, cs = ds ++ es ∧ o = (encodeAll ds).length := by
  by_cases hp : (ofBytes (encodeAll cs)).AfterLast p
  · -- The line after the last one stands for the end of the text.
    rw [offsetOf_of_afterLast hp] at h
    injection h with h
    exact ⟨cs, [], by simp, h.symm⟩
  · obtain ⟨ds, es, hsplit, ho, -⟩ := offsetOf_eq_ok_count h hp
    exact ⟨ds, es, hsplit, ho⟩

/-- In well-formed text no position is lost to a byte that is out of place. -/
theorem offsetOf_encodeAll_ne_invalidEncoding (cs : List Char) (p : Position) (bad : Nat) :
    (ofBytes (encodeAll cs)).offsetOf p ≠ .error (.invalidEncoding bad) := by
  intro h
  unfold offsetOf at h
  split at h
  next => exact absurd h (by simp)
  next =>
    split at h
    next => exact absurd h (by simp)
    next start hstart =>
      -- The lines before the position are well-formed, so what is left of the text is too.
      obtain ⟨front, back, hsplit, hfront, -, rfl⟩ := start?_eq_some_iff.1 hstart
      obtain ⟨ds, es, rfl, rfl⟩ := exists_encodeAll_of_whole hfront hsplit.symm
      rw [bytes_ofBytes, encodeAll_append, List.drop_left] at h
      exact seek_encodeAll_ne_invalidEncoding p _ 0 es bad h

/-! ## §2. Edits. -/

/-- What an edit that is made does. -/
theorem apply_eq_ok {b b' : Buffer} {e : Edit} (h : b.apply e = .ok b') :
    (e.range = none ∧ b' = ofString e.text)
    ∨ ∃ r start stop, e.range = some r ∧ b.offsetOf r.start = .ok start
        ∧ b.offsetOf r.stop = .ok stop ∧ start ≤ stop
        ∧ b' = b.splice start stop (Utf8.ofString e.text) := by
  unfold apply at h
  split at h
  next hrange =>
    injection h with h
    exact .inl ⟨hrange, h.symm⟩
  next r hrange =>
    cases hstart : b.offsetOf r.start with
    | error err =>
      rw [hstart] at h
      exact absurd h (by simp [bind, Except.bind])
    | ok start =>
      cases hstop : b.offsetOf r.stop with
      | error err =>
        rw [hstart, hstop] at h
        exact absurd h (by simp [bind, Except.bind])
      | ok stop =>
        rw [hstart, hstop] at h
        simp only [bind, Except.bind] at h
        split at h
        next => exact absurd h (by simp)
        next hle =>
          injection h with h
          exact .inr ⟨r, start, stop, hrange, hstart, hstop, Nat.le_of_not_lt hle, h.symm⟩

/-- An edit whose ends are found in order is made. -/
theorem apply_of_offsets {b : Buffer} {r : Range} {start stop : Nat}
    (hstart : b.offsetOf r.start = .ok start) (hstop : b.offsetOf r.stop = .ok stop)
    (hle : start ≤ stop) (text : String) :
    b.apply ⟨some r, text⟩ = .ok (b.splice start stop (Utf8.ofString text)) := by
  unfold apply
  simp only [hstart, hstop, bind, Except.bind]
  rw [if_neg (Nat.not_lt.2 hle)]

/-- An edit whose ends are found in the wrong order is not made. -/
theorem apply_of_lt {b : Buffer} {r : Range} {start stop : Nat}
    (hstart : b.offsetOf r.start = .ok start) (hstop : b.offsetOf r.stop = .ok stop)
    (hlt : stop < start) (text : String) :
    b.apply ⟨some r, text⟩ = .error (.invertedRange r.start r.stop) := by
  unfold apply
  simp only [hstart, hstop, bind, Except.bind]
  rw [if_pos hlt]

/-- Replacing the bytes between two places of a text replaces characters. -/
theorem splice_encodeAll {before rest upTo after : List Char} (new : List Char)
    (h : before ++ rest = upTo ++ after) :
    (ofBytes (encodeAll (before ++ rest))).splice (encodeAll before).length
        (encodeAll upTo).length (encodeAll new)
      = ofBytes (encodeAll (before ++ new ++ after)) := by
  have htake : (encodeAll (before ++ rest)).take (encodeAll before).length
      = encodeAll before := by
    rw [encodeAll_append, List.take_left]
  have hdrop : (encodeAll (before ++ rest)).drop (encodeAll upTo).length = encodeAll after := by
    rw [h, encodeAll_append, List.drop_left]
  unfold splice
  rw [bytes_ofBytes, htake, hdrop, encodeAll_append, encodeAll_append]

/-- An edit that is made leaves well-formed text and its index. -/
theorem apply_encodeAll {cs : List Char} {e : Edit} {b : Buffer}
    (h : (ofBytes (encodeAll cs)).apply e = .ok b) : ∃ ds, b = ofBytes (encodeAll ds) := by
  obtain ⟨-, rfl⟩ | ⟨r, start, stop, -, hstart, hstop, -, rfl⟩ := apply_eq_ok h
  · exact ⟨e.text.toList, rfl⟩
  · obtain ⟨ds, es, rfl, rfl⟩ := offsetOf_eq_ok hstart
    obtain ⟨fs, gs, hsplit, rfl⟩ := offsetOf_eq_ok hstop
    exact ⟨ds ++ e.text.toList ++ gs, splice_encodeAll e.text.toList hsplit⟩

/-- Of two places of a text, the one with fewer bytes before it comes first. -/
theorem exists_eq_append_of_length_le {before rest upTo after : List Char}
    (h : before ++ rest = upTo ++ after)
    (hle : (encodeAll before).length ≤ (encodeAll upTo).length) : ∃ mid, upTo = before ++ mid := by
  obtain ⟨mid, hmid, -⟩ | ⟨mid, rfl, -⟩ := List.append_eq_append_iff.1 h
  · exact ⟨mid, hmid⟩
  · -- Then the first place lies after the second by `mid`, which must be empty.
    rw [encodeAll_append, List.length_append] at hle
    have hnil : mid = [] := eq_nil_of_length_encodeAll (by omega)
    exact ⟨[], by rw [hnil]; simp⟩

/-- An edit of well-formed text that is made replaces the characters
between the two places where its range is found. -/
theorem apply_eq_ok_places {cs : List Char} {r : Range} {text : String} {b : Buffer}
    {start stop : Nat} (h : (ofBytes (encodeAll cs)).apply ⟨some r, text⟩ = .ok b)
    (hstart : (ofBytes (encodeAll cs)).offsetOf r.start = .ok start)
    (hstop : (ofBytes (encodeAll cs)).offsetOf r.stop = .ok stop) :
    ∃ front mid back, cs = front ++ mid ++ back
      ∧ b = ofBytes (encodeAll (front ++ text.toList ++ back))
      ∧ start = (encodeAll front).length ∧ stop = (encodeAll (front ++ mid)).length := by
  obtain ⟨hnone, -⟩ | ⟨r', start', stop', hrange, hfirst, hsecond, hle, rfl⟩ := apply_eq_ok h
  · exact absurd hnone (by simp)
  · injection hrange with hrange
    subst hrange
    obtain rfl : start' = start := Except.ok.inj (hfirst.symm.trans hstart)
    obtain rfl : stop' = stop := Except.ok.inj (hsecond.symm.trans hstop)
    obtain ⟨front, rest, rfl, rfl⟩ := offsetOf_eq_ok hstart
    obtain ⟨upTo, back, hsplit, rfl⟩ := offsetOf_eq_ok hstop
    obtain ⟨mid, rfl⟩ := exists_eq_append_of_length_le hsplit hle
    exact ⟨front, mid, back, hsplit, splice_encodeAll text.toList hsplit, rfl, rfl⟩

/-- An edit of well-formed text that is made replaces the characters
between two places, which stand on the lines that its range names. -/
theorem apply_eq_ok_parts {cs : List Char} {r : Range} {text : String} {b : Buffer}
    (h : (ofBytes (encodeAll cs)).apply ⟨some r, text⟩ = .ok b)
    (hstart : ¬ (ofBytes (encodeAll cs)).AfterLast r.start)
    (hstop : ¬ (ofBytes (encodeAll cs)).AfterLast r.stop) :
    ∃ front mid back, cs = front ++ mid ++ back
      ∧ b = ofBytes (encodeAll (front ++ text.toList ++ back))
      ∧ front.count '\n' = r.start.line.toNat ∧ (front ++ mid).count '\n' = r.stop.line.toNat := by
  obtain ⟨hnone, -⟩ | ⟨r', start, stop, hrange, hfirst, hsecond, hle, rfl⟩ := apply_eq_ok h
  · exact absurd hnone (by simp)
  · injection hrange with hrange
    subst hrange
    obtain ⟨front, rest, rfl, rfl, hfront⟩ := offsetOf_eq_ok_count hfirst hstart
    obtain ⟨upTo, back, hsplit, rfl, hupTo⟩ := offsetOf_eq_ok_count hsecond hstop
    obtain ⟨mid, rfl⟩ := exists_eq_append_of_length_le hsplit hle
    exact ⟨front, mid, back, hsplit, splice_encodeAll text.toList hsplit, hfront, hupTo⟩

/-- A batch that is made leaves well-formed text and its index. -/
theorem applyAll_encodeAll {edits : List Edit} {cs : List Char} {b : Buffer}
    (h : (ofBytes (encodeAll cs)).applyAll edits = .ok b) : ∃ ds, b = ofBytes (encodeAll ds) := by
  unfold applyAll at h
  induction edits generalizing cs with
  | nil =>
    injection h with h
    exact ⟨cs, h.symm⟩
  | cons e edits ih =>
    rw [List.foldlM_cons] at h
    cases he : (ofBytes (encodeAll cs)).apply e with
    | error err =>
      rw [he] at h
      exact absurd h (by simp [bind, Except.bind])
    | ok b' =>
      rw [he] at h
      obtain ⟨ds, rfl⟩ := apply_encodeAll he
      exact ih h

/-! ## §3. Edits that are not made. -/

/-- Why an edit is not made: its start is not found, or else its end, or
else they are in the wrong order. -/
theorem apply_eq_error {b : Buffer} {e : Edit} {err : BufferError} (h : b.apply e = .error err) :
    ∃ r, e.range = some r
      ∧ (b.offsetOf r.start = .error err
        ∨ ∃ start, b.offsetOf r.start = .ok start
          ∧ (b.offsetOf r.stop = .error err
            ∨ ∃ stop, b.offsetOf r.stop = .ok stop ∧ stop < start
              ∧ err = .invertedRange r.start r.stop)) := by
  unfold apply at h
  split at h
  next => exact absurd h (by simp)
  next r hrange =>
    refine ⟨r, hrange, ?_⟩
    cases hstart : b.offsetOf r.start with
    | error err' =>
      rw [hstart] at h
      injection h with h
      exact .inl (by rw [h])
    | ok start =>
      refine .inr ⟨start, rfl, ?_⟩
      cases hstop : b.offsetOf r.stop with
      | error err' =>
        rw [hstart, hstop] at h
        injection h with h
        exact .inl (by rw [h])
      | ok stop =>
        rw [hstart, hstop] at h
        simp only [bind, Except.bind] at h
        split at h
        next hlt =>
          injection h with h
          exact .inr ⟨stop, rfl, hlt, h.symm⟩
        next => exact absurd h (by simp)

/-- A batch fails at the first edit that cannot be made in the text that
the edits before it leave. -/
theorem applyAll_eq_error_iff {edits : List Edit} {b : Buffer} {err : BufferError} :
    b.applyAll edits = .error err
      ↔ ∃ front e back b', edits = front ++ e :: back ∧ b.applyAll front = .ok b'
          ∧ b'.apply e = .error err := by
  unfold applyAll
  constructor
  · intro h
    induction edits generalizing b with
    | nil => exact absurd h (by simp [pure, Except.pure])
    | cons e edits ih =>
      rw [List.foldlM_cons] at h
      cases he : b.apply e with
      | error err' =>
        rw [he] at h
        exact ⟨[], e, edits, b, rfl, rfl, he.trans h⟩
      | ok b' =>
        rw [he] at h
        obtain ⟨front, e', back, b'', rfl, hfront, herror⟩ := ih h
        refine ⟨e :: front, e', back, b'', rfl, ?_, herror⟩
        rw [List.foldlM_cons, he]
        exact hfront
  · rintro ⟨front, e, back, b', rfl, hfront, he⟩
    rw [List.foldlM_append, hfront]
    show (e :: back).foldlM apply b' = _
    rw [List.foldlM_cons, he]
    rfl

theorem applyAll_encodeAll_ne_invalidEncoding (cs : List Char) (edits : List Edit) (bad : Nat) :
    (ofBytes (encodeAll cs)).applyAll edits ≠ .error (.invalidEncoding bad) := by
  intro h
  obtain ⟨front, e, back, b, -, hfront, he⟩ := applyAll_eq_error_iff.1 h
  obtain ⟨ds, rfl⟩ := applyAll_encodeAll hfront
  obtain ⟨r, -, hstart | ⟨start, -, hstop | ⟨stop, -, -, hinverted⟩⟩⟩ := apply_eq_error he
  · exact offsetOf_encodeAll_ne_invalidEncoding ds r.start bad hstart
  · exact offsetOf_encodeAll_ne_invalidEncoding ds r.stop bad hstop
  · exact absurd hinverted (by simp)

end Buffer

end DocNav
