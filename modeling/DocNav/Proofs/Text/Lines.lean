/-
  DocNav.Proofs.Text.Lines
  ────────────────────────
  Where the lines of a text stand in it.

  The line with number `i` stands after a whole part of the text with `i`
  newlines, and it holds no newline itself (`getElem?_lines`).  Of two
  texts put together, the lines that are ended in the first depend on it
  alone (`take_lines_append`), and so do those that begin in the second
  (`drop_lines_append`).  The last part between separators is what stands
  after the last of them.
-/
import DocNav.Proofs.Text.Parts

namespace DocNav.Text

/-! ## §1. Segments. -/

theorem segments_newline (cs : List Char) : segments ('\n' :: cs) = ['\n'] :: segments cs := by
  rw [segments, if_pos rfl]

theorem segments_cons {c : Char} (hc : c ≠ '\n') {cs s : List Char} {ss : List (List Char)}
    (h : segments cs = s :: ss) : segments (c :: cs) = (c :: s) :: ss := by
  rw [segments, if_neg hc, h]

theorem segments_singleton {c : Char} (hc : c ≠ '\n') : segments [c] = [[c]] := by
  rw [segments, if_neg hc]
  rfl

theorem segments_eq_nil_iff {cs : List Char} : segments cs = [] ↔ cs = [] := by
  constructor
  · intro h
    rw [← flatten_segments cs, h]
    rfl
  · rintro rfl
    rfl

/-- The segment with number `i` stands after a whole part with `i`
newlines.  It is a line and the newline that ends it, or the last line and
nothing after it. -/
theorem getElem?_segments {cs s : List Char} {i : Nat} (h : (segments cs)[i]? = some s) :
    ∃ front line, Whole '\n' front ∧ front.count '\n' = i ∧ '\n' ∉ line
      ∧ ((∃ back, s = line ++ ['\n'] ∧ cs = front ++ line ++ '\n' :: back)
        ∨ (s = line ∧ cs = front ++ line)) := by
  induction cs generalizing s i with
  | nil => exact absurd h (by simp [segments])
  | cons c cs ih =>
    by_cases hc : c = '\n'
    · -- A newline is a segment of its own and comes before all others.
      subst hc
      rw [segments_newline] at h
      cases i with
      | zero =>
        rw [List.getElem?_cons_zero] at h
        injection h with h
        exact ⟨[], [], whole_nil _, rfl, by simp, .inl ⟨cs, h.symm, rfl⟩⟩
      | succ i =>
        rw [List.getElem?_cons_succ] at h
        obtain ⟨front, line, hfront, hcount, hline, hplace⟩ := ih h
        refine ⟨'\n' :: front, line, whole_cons hfront (.inl rfl),
          by rw [List.count_cons_self, hcount], hline, ?_⟩
        obtain ⟨back, hs, rfl⟩ | ⟨hs, rfl⟩ := hplace
        · exact .inl ⟨back, hs, rfl⟩
        · exact .inr ⟨hs, rfl⟩
    · -- Any other character belongs to the first segment of what follows.
      cases hsegments : segments cs with
      | nil =>
        obtain rfl := segments_eq_nil_iff.1 hsegments
        rw [segments_singleton hc] at h
        cases i with
        | zero =>
          rw [List.getElem?_cons_zero] at h
          injection h with h
          exact ⟨[], [c], whole_nil _, rfl, by simpa using Ne.symm hc, .inr ⟨h.symm, rfl⟩⟩
        | succ i => exact absurd h (by simp)
      | cons s' ss =>
        rw [segments_cons hc hsegments] at h
        cases i with
        | zero =>
          rw [List.getElem?_cons_zero] at h
          injection h with h
          have hfirst : (segments cs)[0]? = some s' := by rw [hsegments]; rfl
          obtain ⟨front, line, hfront, hcount, hline, hplace⟩ := ih hfirst
          obtain rfl := eq_nil_of_whole hfront hcount
          refine ⟨[], c :: line, whole_nil _, rfl, ?_, ?_⟩
          · rw [List.mem_cons, not_or]
            exact ⟨Ne.symm hc, hline⟩
          · obtain ⟨back, rfl, rfl⟩ | ⟨rfl, rfl⟩ := hplace
            · exact .inl ⟨back, h.symm, rfl⟩
            · exact .inr ⟨h.symm, rfl⟩
        | succ i =>
          -- `c` joins the first line, so the later segments keep their numbers.
          have hlater : (segments cs)[i + 1]? = some s := by
            rw [hsegments]
            exact h
          obtain ⟨front, line, hfront, hcount, hline, hplace⟩ := ih hlater
          have hne : front ≠ [] := by
            rintro rfl
            simp at hcount
          refine ⟨c :: front, line, whole_cons hfront (.inr hne),
            by rw [List.count_cons_of_ne hc, hcount], hline, ?_⟩
          obtain ⟨back, hs, rfl⟩ | ⟨hs, rfl⟩ := hplace
          · exact .inl ⟨back, hs, rfl⟩
          · exact .inr ⟨hs, rfl⟩

/-- A whole part at the front of a text is cut by itself. -/
theorem segments_append_of_whole {front : List Char} (h : Whole '\n' front) (back : List Char) :
    segments (front ++ back) = segments front ++ segments back := by
  obtain rfl | ⟨xs, rfl⟩ := h
  · rfl
  · induction xs with
    | nil => exact segments_newline back
    | cons c xs ih =>
      by_cases hc : c = '\n'
      · subst hc
        show segments ('\n' :: (xs ++ ['\n'] ++ back)) = segments ('\n' :: (xs ++ ['\n'])) ++ _
        rw [segments_newline, segments_newline, ih]
        rfl
      · cases hs : segments (xs ++ ['\n']) with
        | nil => exact absurd (segments_eq_nil_iff.1 hs) (by simp)
        | cons s ss =>
          rw [hs] at ih
          show segments (c :: (xs ++ ['\n'] ++ back)) = segments (c :: (xs ++ ['\n'])) ++ _
          rw [segments_cons hc ih, segments_cons hc hs]
          rfl

/-- A whole part has a segment for each of its newlines. -/
theorem length_segments_of_whole {front : List Char} (h : Whole '\n' front) :
    (segments front).length = front.count '\n' := by
  obtain rfl | ⟨xs, rfl⟩ := h
  · rfl
  · induction xs with
    | nil => rfl
    | cons c xs ih =>
      by_cases hc : c = '\n'
      · subst hc
        show (segments ('\n' :: (xs ++ ['\n']))).length = ('\n' :: (xs ++ ['\n'])).count '\n'
        rw [segments_newline, List.length_cons, ih, List.count_cons_self]
      · cases hs : segments (xs ++ ['\n']) with
        | nil => exact absurd (segments_eq_nil_iff.1 hs) (by simp)
        | cons s ss =>
          rw [hs] at ih
          show (segments (c :: (xs ++ ['\n']))).length = (c :: (xs ++ ['\n'])).count '\n'
          rw [segments_cons hc hs, List.count_cons_of_ne hc]
          exact ih

/-- One line is one segment, with the newline that ends it. -/
theorem segments_line {line : List Char} (h : '\n' ∉ line) :
    segments (line ++ ['\n']) = [line ++ ['\n']] := by
  induction line with
  | nil => rfl
  | cons c line ih =>
    rw [List.mem_cons, not_or] at h
    exact segments_cons (Ne.symm h.1) (ih h.2)

/-- The last line is one segment, if anything stands on it. -/
theorem segments_last {line : List Char} (h : '\n' ∉ line) (hne : line ≠ []) :
    segments line = [line] := by
  induction line with
  | nil => exact absurd rfl hne
  | cons c line ih =>
    rw [List.mem_cons, not_or] at h
    have hc : c ≠ '\n' := Ne.symm h.1
    by_cases hnil : line = []
    · rw [hnil]
      exact segments_singleton hc
    · exact segments_cons hc (ih h.2 hnil)

/-- What stands before a text on its first line is in the first segment. -/
theorem tail_segments_append {line : List Char} (h : '\n' ∉ line) (back : List Char) :
    (segments (line ++ back)).tail = (segments back).tail := by
  induction line with
  | nil => rfl
  | cons c line ih =>
    rw [List.mem_cons, not_or] at h
    have hc : c ≠ '\n' := Ne.symm h.1
    rw [← ih h.2, List.cons_append]
    cases hs : segments (line ++ back) with
    | nil =>
      rw [segments_eq_nil_iff.1 hs, segments_singleton hc]
      rfl
    | cons s ss =>
      rw [segments_cons hc hs]
      rfl

theorem segments_append (cs back : List Char) :
    segments (cs ++ back)
      = segments (wholePart '\n' cs) ++ segments (lastPart '\n' cs ++ back) := by
  rw [← segments_append_of_whole (whole_wholePart _ cs), ← List.append_assoc,
    wholePart_append_lastPart]

/-! ## §2. Lines. -/

/-- The text is the line without the carriage returns at its end, of which
no more than `limit` are taken. -/
def Trimmed (limit : Nat) (line text : List Char) : Prop :=
  ∃ n ≤ limit, line = text ++ List.replicate n '\r' ∧ (n < limit → text.getLast? ≠ some '\r')

theorem trimmed_zero (line : List Char) : Trimmed 0 line line := by
  refine ⟨0, Nat.le_refl 0, (List.append_nil line).symm, ?_⟩
  intro hlt
  omega

/-- One more is taken, if there is one left. -/
theorem Trimmed.dropReturn {limit : Nat} {line text : List Char} (h : Trimmed limit line text) :
    Trimmed (limit + 1) line (dropReturn text) := by
  obtain ⟨n, hn, hline, hlast⟩ := h
  unfold Text.dropReturn
  by_cases hreturn : text.getLast? = some '\r'
  · -- All that could be taken before were carriage returns, and there is another.
    have hfull : n = limit := by
      by_contra hne
      exact hlast (by omega) hreturn
    have hsplit : text = text.dropLast ++ ['\r'] := by
      obtain ⟨front, hfront⟩ := List.getLast?_eq_some_iff.mp hreturn
      rw [hfront, List.dropLast_concat]
    rw [if_pos hreturn]
    refine ⟨n + 1, by omega, ?_, by omega⟩
    calc line = text ++ List.replicate n '\r' := hline
      _ = text.dropLast ++ ['\r'] ++ List.replicate n '\r' := by rw [← hsplit]
      _ = text.dropLast ++ List.replicate (n + 1) '\r' := by
        rw [List.append_assoc, List.singleton_append, List.replicate_succ]
  · rw [if_neg hreturn]
    exact ⟨n, by omega, hline, fun _ => hreturn⟩

/-- Up to two carriage returns go with the newline that ends a line. -/
theorem trimmed_content_newline (line : List Char) :
    Trimmed 2 line (content (line ++ ['\n'])) := by
  unfold content
  rw [List.getLast?_concat, if_pos rfl, List.dropLast_concat]
  exact (trimmed_zero line).dropReturn.dropReturn

/-- One carriage return goes with the end of the text. -/
theorem trimmed_content_last {line : List Char} (h : '\n' ∉ line) :
    Trimmed 1 line (content line) := by
  have hlast : line.getLast? ≠ some '\n' := fun hmem => h (List.mem_of_getLast? hmem)
  unfold content
  rw [if_neg hlast]
  exact (trimmed_zero line).dropReturn

/-- What a segment says stands at the front of its line. -/
theorem content_append {s line : List Char} (hs : s = line ++ ['\n'] ∨ s = line)
    (hline : '\n' ∉ line) : ∃ back, content s ++ back = line := by
  obtain rfl | rfl := hs
  · obtain ⟨n, -, hsplit, -⟩ := trimmed_content_newline line
    exact ⟨_, hsplit.symm⟩
  · obtain ⟨n, -, hsplit, -⟩ := trimmed_content_last hline
    exact ⟨_, hsplit.symm⟩

/-- The line with number `i` stands after a whole part with `i` newlines. -/
theorem getElem?_lines {cs line : List Char} {i : Nat} (h : (lines cs)[i]? = some line) :
    ∃ front back, cs = front ++ line ++ back ∧ Whole '\n' front ∧ front.count '\n' = i
      ∧ '\n' ∉ line := by
  unfold lines at h
  rw [List.getElem?_map, Option.map_eq_some_iff] at h
  obtain ⟨s, hs, rfl⟩ := h
  obtain ⟨front, line, hfront, hcount, hline, hplace⟩ := getElem?_segments hs
  have hshape : s = line ++ ['\n'] ∨ s = line := by
    obtain ⟨_, hs, -⟩ | ⟨hs, -⟩ := hplace
    · exact .inl hs
    · exact .inr hs
  obtain ⟨rest, hrest⟩ := content_append hshape hline
  have hcontent : '\n' ∉ content s := fun h => hline (by rw [← hrest]; exact List.mem_append_left _ h)
  obtain ⟨back, -, hcs⟩ | ⟨-, hcs⟩ := hplace
  · exact ⟨front, rest ++ '\n' :: back, by rw [hcs, ← hrest]; simp, hfront, hcount, hcontent⟩
  · exact ⟨front, rest, by rw [hcs, ← hrest]; simp, hfront, hcount, hcontent⟩

/-- A whole part at the front of a text has its lines by itself. -/
theorem lines_append_of_whole {front : List Char} (h : Whole '\n' front) (back : List Char) :
    lines (front ++ back) = lines front ++ lines back := by
  unfold lines
  rw [segments_append_of_whole h, List.map_append]

/-- A whole part has a line for each of its newlines. -/
theorem length_lines_of_whole {front : List Char} (h : Whole '\n' front) :
    (lines front).length = front.count '\n' := by
  unfold lines
  rw [List.length_map, length_segments_of_whole h]

/-- The line that begins after a whole part has the number of its newlines. -/
theorem getElem?_lines_of_whole {front : List Char} (h : Whole '\n' front) (back : List Char) :
    (lines (front ++ back))[front.count '\n']? = (lines back)[0]? := by
  have hlength := length_lines_of_whole h
  rw [lines_append_of_whole h, List.getElem?_append_right (Nat.le_of_eq hlength), hlength,
    Nat.sub_self]

/-- The first line of a text, with a newline after it. -/
theorem getElem?_lines_newline {line : List Char} (h : '\n' ∉ line) (back : List Char) :
    (lines (line ++ '\n' :: back))[0]? = some (content (line ++ ['\n'])) := by
  have hsplit : line ++ '\n' :: back = (line ++ ['\n']) ++ back := by
    rw [List.append_assoc]
    rfl
  unfold lines
  rw [hsplit, segments_append_of_whole (whole_concat '\n' line), segments_line h]
  rfl

/-- The only line of a text; there is none if nothing stands on it. -/
theorem lines_last {line : List Char} (h : '\n' ∉ line) :
    lines line = if line = [] then [] else [content line] := by
  unfold lines
  split
  next hnil =>
    rw [hnil]
    rfl
  next hne =>
    rw [segments_last h hne]
    rfl

theorem getElem?_lines_last {line : List Char} (h : '\n' ∉ line) :
    (lines line)[0]? = if line = [] then none else some (content line) := by
  rw [lines_last h]
  split <;> rfl

theorem length_lines_wholePart (cs : List Char) :
    (lines (wholePart '\n' cs)).length = cs.count '\n' := by
  rw [length_lines_of_whole (whole_wholePart _ cs), count_wholePart]

/-- The lines that are ended in a text do not depend on what follows it. -/
theorem take_lines_append (cs back : List Char) :
    (lines (cs ++ back)).take (cs.count '\n') = lines (wholePart '\n' cs) := by
  have hlength := length_lines_wholePart cs
  unfold lines at hlength ⊢
  rw [segments_append, List.map_append, List.take_left' hlength]

/-- The lines that begin after a text do not depend on it. -/
theorem drop_lines_append (cs back : List Char) :
    (lines (cs ++ back)).drop (cs.count '\n' + 1) = (lines back).tail := by
  have hlength := length_lines_wholePart cs
  unfold lines at hlength ⊢
  rw [segments_append, List.map_append, ← List.tail_drop, List.drop_left' hlength,
    ← List.map_tail, tail_segments_append (not_mem_lastPart _ cs), List.map_tail]

/-! ## §3. Parts between separators. -/

theorem splitOn_sep (sep : Char) (cs : List Char) : splitOn sep (sep :: cs) = [] :: splitOn sep cs := by
  rw [splitOn, if_pos rfl]

theorem splitOn_cons {sep c : Char} (hc : c ≠ sep) {cs s : List Char} {ss : List (List Char)}
    (h : splitOn sep cs = s :: ss) : splitOn sep (c :: cs) = (c :: s) :: ss := by
  rw [splitOn, if_neg hc, h]

/-- The parts are those that the list library gives. -/
theorem splitOn_eq (sep : Char) (cs : List Char) : splitOn sep cs = cs.splitOn sep := by
  induction cs with
  | nil => simp [splitOn]
  | cons c cs ih =>
    rw [List.splitOn_cons_eq_if_modifyHead, ← ih]
    by_cases hc : c = sep
    · subst hc
      rw [splitOn_sep, if_pos (beq_self_eq_true c)]
    · obtain ⟨s, ss, hss⟩ := List.exists_cons_of_ne_nil (splitOn_ne_nil sep cs)
      rw [splitOn_cons hc hss, if_neg (by simpa using hc), hss, List.modifyHead_cons]

/-- What stands before the first separator is the first part. -/
theorem splitOn_append_sep {sep : Char} {front : List Char} (h : sep ∉ front) (back : List Char) :
    splitOn sep (front ++ sep :: back) = front :: splitOn sep back := by
  rw [splitOn_eq, splitOn_eq, List.splitOn_append_cons_self_of_not_mem h]

/-- No part holds a separator. -/
theorem not_mem_of_mem_splitOn {sep : Char} {cs s : List Char} (h : s ∈ splitOn sep cs) :
    sep ∉ s := by
  induction cs generalizing s with
  | nil =>
    rw [splitOn, List.mem_singleton] at h
    rw [h]
    exact List.not_mem_nil
  | cons c cs ih =>
    by_cases hc : c = sep
    · subst hc
      rw [splitOn_sep, List.mem_cons] at h
      obtain rfl | h := h
      · exact List.not_mem_nil
      · exact ih h
    · obtain ⟨t, ts, hts⟩ := List.exists_cons_of_ne_nil (splitOn_ne_nil sep cs)
      rw [splitOn_cons hc hts, List.mem_cons] at h
      obtain rfl | h := h
      · have ht : sep ∉ t := ih (by rw [hts]; exact List.mem_cons_self)
        rw [List.mem_cons, not_or]
        exact ⟨Ne.symm hc, ht⟩
      · exact ih (by rw [hts]; exact List.mem_cons_of_mem _ h)

/-- There is one more part than there are separators. -/
theorem length_splitOn (sep : Char) (cs : List Char) :
    (splitOn sep cs).length = cs.count sep + 1 := by
  induction cs with
  | nil => rfl
  | cons c cs ih =>
    by_cases hc : c = sep
    · subst hc
      rw [splitOn_sep, List.length_cons, ih, List.count_cons_self]
    · obtain ⟨s, ss, hss⟩ := List.exists_cons_of_ne_nil (splitOn_ne_nil sep cs)
      rw [hss] at ih
      rw [splitOn_cons hc hss, List.count_cons_of_ne hc, ← ih]
      rfl

/-- The last part stands after a whole part of the text. -/
theorem getLast?_splitOn_append {sep : Char} {cs s : List Char}
    (h : (splitOn sep cs).getLast? = some s) :
    ∃ front, cs = front ++ s ∧ Whole sep front ∧ sep ∉ s := by
  induction cs generalizing s with
  | nil =>
    injection h with h
    exact ⟨[], by rw [← h]; rfl, whole_nil _, by rw [← h]; simp⟩
  | cons c cs ih =>
    have hcount := length_splitOn sep cs
    obtain ⟨t, ss, hss⟩ := List.exists_cons_of_ne_nil (splitOn_ne_nil sep cs)
    by_cases hc : c = sep
    · subst hc
      rw [splitOn_sep, hss, List.getLast?_cons_cons, ← hss] at h
      obtain ⟨front, rfl, hfront, hs⟩ := ih h
      exact ⟨c :: front, rfl, whole_cons hfront (.inl rfl), hs⟩
    · rw [splitOn_cons hc hss] at h
      cases ss with
      | nil =>
        -- One part only: there is no separator in `cs`.
        injection h with h
        obtain ⟨front, rfl, hfront, hs⟩ := ih (by rw [hss]; rfl)
        rw [hss, List.length_singleton, List.count_append] at hcount
        obtain rfl := eq_nil_of_whole hfront (by omega)
        refine ⟨[], h, whole_nil _, ?_⟩
        rw [← h, List.getLast_singleton, List.mem_cons, not_or]
        exact ⟨Ne.symm hc, hs⟩
      | cons u us =>
        rw [List.getLast?_cons_cons] at h
        have hlast : (splitOn sep cs).getLast? = some s := by
          rw [hss, List.getLast?_cons_cons]
          exact h
        obtain ⟨front, rfl, hfront, hs⟩ := ih hlast
        have hne : front ≠ [] := by
          rintro rfl
          rw [hss, List.nil_append, List.count_eq_zero_of_not_mem hs] at hcount
          simp at hcount
        exact ⟨c :: front, rfl, whole_cons hfront (.inr hne), hs⟩

/-- The last part is what stands after the last separator. -/
theorem getLast?_splitOn (sep : Char) (cs : List Char) :
    (splitOn sep cs).getLast? = some (lastPart sep cs) := by
  cases h : (splitOn sep cs).getLast? with
  | none => exact absurd (List.getLast?_eq_none_iff.1 h) (splitOn_ne_nil sep cs)
  | some s =>
    obtain ⟨front, rfl, hfront, hs⟩ := getLast?_splitOn_append h
    rw [lastPart_append hfront hs]

/-- The part before the last mark, the mark and the rest make the text. -/
theorem beforeLast_eq_some {mark : Char} {cs before : List Char}
    (h : beforeLast mark cs = some before) : ∃ after, cs = before ++ mark :: after := by
  induction cs generalizing before with
  | nil => exact absurd h (by simp [beforeLast])
  | cons c cs ih =>
    unfold beforeLast at h
    split at h
    next inner hinner =>
      injection h with h
      obtain ⟨after, hafter⟩ := ih hinner
      exact ⟨after, by rw [← h, hafter]; rfl⟩
    next =>
      rw [Option.ite_none_right_eq_some] at h
      obtain ⟨rfl, h⟩ := h
      injection h with h
      exact ⟨cs, by rw [← h]; rfl⟩

/-- The part before the last mark is all that stands before a mark at the end. -/
theorem beforeLast_concat (mark : Char) (cs : List Char) :
    beforeLast mark (cs ++ [mark]) = some cs := by
  induction cs with
  | nil => simp [beforeLast]
  | cons c cs ih => rw [List.cons_append, beforeLast, ih]

end DocNav.Text
