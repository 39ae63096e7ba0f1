/-
  DocNav.Proofs.Outline.Item
  ──────────────────────────
  The ranges of a line say where its key and its value stand.

  Whatever a line says, its key and then its value stand in it, each
  between the columns of its range (`laid_read`); an empty one stands at
  the place that the range names.
-/
import DocNav.Outline.Item
import DocNav.Proofs.Text.Lines

namespace DocNav.Item

open Text Utf16

/-! ## §1. The parts of a line. -/

/-- The spaces that a line begins with. -/
def indentation (text : List Char) : List Char :=
  text.takeWhile (· == ' ')

/-- What stands between the indentation and the first colon. -/
def keyPart (text : List Char) : List Char :=
  (text.dropWhile (· == ' ')).takeWhile (· != ':')

/-- What stands from the first colon on. -/
def afterKey (text : List Char) : List Char :=
  (text.dropWhile (· == ' ')).dropWhile (· != ':')

theorem parts_append (text : List Char) :
    indentation text ++ keyPart text ++ afterKey text = text := by
  unfold indentation keyPart afterKey
  rw [List.append_assoc, List.takeWhile_append_dropWhile, List.takeWhile_append_dropWhile]

theorem drop_length_takeWhile (p : Char → Bool) (cs : List Char) :
    cs.drop (cs.takeWhile p).length = cs.dropWhile p := by
  have h := List.takeWhile_append_dropWhile (p := p) (l := cs)
  conv_lhs =>
    arg 2
    rw [← h]
  rw [List.drop_left]

/-- The range of a part of a line, by its start and its size. -/
def span (line : UInt32) (text : List Char) (start size : Nat) : Range :=
  .within line (columns (text.take start)) (columns (text.take (start + size)))

/-- A line is read by its parts. -/
theorem read_eq (line : UInt32) (text : List Char) :
    read line text
      = match afterKey text with
        | [] =>
            ⟨(indentation text).length, "", "", span line text (indentation text).length 0,
              span line text text.length 0⟩
        | _ :: after =>
            match value? after with
            | none =>
                ⟨(indentation text).length, String.ofList (keyPart text), "",
                  span line text (indentation text).length (keyPart text).length,
                  span line text text.length 0⟩
            | some (start, value) =>
                ⟨(indentation text).length, String.ofList (keyPart text), String.ofList value,
                  span line text (indentation text).length (keyPart text).length,
                  span line text ((indentation text).length + (keyPart text).length + 1 + start)
                    value.length⟩ := by
  unfold read
  simp only [drop_length_takeWhile]
  rfl

theorem indent_read (line : UInt32) (text : List Char) :
    (read line text).indent = (indentation text).length := by
  rw [read_eq]
  split
  · rfl
  · split <;> rfl

/-- The value of the part of a line after its colon stands in it. -/
theorem value?_eq_some {after value : List Char} {start : Nat}
    (h : value? after = some (start, value)) :
    ∃ before rest, after = before ++ value ++ rest ∧ before.length = start := by
  have hsplit := List.takeWhile_append_dropWhile (p := (· == ' ')) (l := after)
  unfold value? at h
  simp only [drop_length_takeWhile] at h
  split at h
  next => exact absurd h (by simp)
  next c cs hdrop =>
    rw [hdrop] at hsplit
    split at h
    next =>
      -- Quoted: the value starts after the quote and ends before the last one.
      rw [Option.map_eq_some_iff] at h
      obtain ⟨inner, hinner, h⟩ := h
      injection h with hstart hvalue
      obtain ⟨rest, hrest⟩ := beforeLast_eq_some hinner
      refine ⟨after.takeWhile (· == ' ') ++ [c], c :: rest, ?_, ?_⟩
      · conv_lhs => rw [← hsplit, hrest]
        rw [← hvalue]
        simp
      · rw [← hstart, List.length_append, List.length_singleton]
    next =>
      injection h with h
      injection h with hstart hvalue
      exact ⟨after.takeWhile (· == ' '), [], by rw [← hvalue, List.append_nil, hsplit], hstart⟩

/-! ## §2. Key and value stand where their ranges say. -/

/-- The key and the value of an item stand in the line `text` with the given
number, the key first, each between the columns of its range. -/
structure Laid (line : UInt32) (text : List Char) (item : Item)
    (before between after : List Char) : Prop where
  split : text = before ++ item.key.toList ++ between ++ item.value.toList ++ after
  key : item.keyRange = .within line (columns before) (columns (before ++ item.key.toList))
  value : item.valueRange = .within line (columns (before ++ item.key.toList ++ between))
    (columns (before ++ item.key.toList ++ between ++ item.value.toList))

theorem span_append (line : UInt32) {text before chars after : List Char}
    (h : text = before ++ chars ++ after) :
    span line text before.length chars.length
      = .within line (columns before) (columns (before ++ chars)) := by
  unfold span
  rw [← List.length_append, h, List.take_left, List.append_assoc, List.take_left]

/-- The range of nothing at the end of a line. -/
theorem span_end (line : UInt32) (text : List Char) :
    span line text text.length 0 = .within line (columns text) (columns text) := by
  unfold span
  rw [Nat.add_zero, List.take_length]

/-- Whatever a line says, its key and then its value stand in it. -/
theorem laid_read (line : UInt32) (text : List Char) :
    ∃ before between after, Laid line text (read line text) before between after := by
  have hparts := parts_append text
  rw [read_eq]
  split
  next =>
    -- Without a colon the key is nothing after the indentation, the value nothing at the end.
    have hempty : text = indentation text ++ [] ++ (keyPart text ++ afterKey text) := by
      rw [List.append_nil, ← List.append_assoc, hparts]
    refine ⟨indentation text, keyPart text ++ afterKey text, [], ⟨?_, ?_, ?_⟩⟩
    · simp only [String.toList_empty, List.append_nil, ← List.append_assoc, hparts]
    · exact span_append line hempty
    · simp only [String.toList_empty, List.append_nil, ← List.append_assoc, hparts]
      exact span_end line text
  next c after hafter =>
    split
    next =>
      refine ⟨indentation text, c :: after, [], ⟨?_, ?_, ?_⟩⟩
      · simp only [String.toList_ofList, String.toList_empty, List.append_nil, ← hafter, hparts]
      · rw [String.toList_ofList]
        exact span_append line hparts.symm
      · simp only [String.toList_ofList, String.toList_empty, List.append_nil, ← hafter, hparts]
        exact span_end line text
    next start value hvalue =>
      obtain ⟨gap, rest, rfl, rfl⟩ := value?_eq_some hvalue
      rw [hafter] at hparts
      have hsplit : text = indentation text ++ keyPart text ++ c :: gap ++ value ++ rest := by
        calc text = indentation text ++ keyPart text ++ c :: (gap ++ value ++ rest) := hparts.symm
          _ = _ := by simp
      have hstart : (indentation text).length + (keyPart text).length + 1 + gap.length
          = (indentation text ++ keyPart text ++ c :: gap).length := by
        simp only [List.length_append, List.length_cons]
        omega
      refine ⟨indentation text, c :: gap, rest, ⟨?_, ?_, ?_⟩⟩
      · simp only [String.toList_ofList]
        exact hsplit
      · rw [String.toList_ofList]
        exact span_append line hparts.symm
      · simp only [String.toList_ofList, hstart]
        exact span_append line hsplit

/-- The characters stand in the line `text` with the given number between
the columns of the range. -/
def Stands (line : UInt32) (text : List Char) (r : Range) (chars : List Char) : Prop :=
  ∃ before after, text = before ++ chars ++ after
    ∧ r = .within line (columns before) (columns (before ++ chars))

/-- The key of a line stands where its key range says. -/
theorem stands_key (line : UInt32) (text : List Char) :
    Stands line text (read line text).keyRange (read line text).key.toList := by
  obtain ⟨before, between, after, hlaid⟩ := laid_read line text
  refine ⟨before, between ++ (read line text).value.toList ++ after, ?_, hlaid.key⟩
  calc text = _ := hlaid.split
    _ = _ := by simp only [List.append_assoc]

/-- The value of a line stands where its value range says. -/
theorem stands_value (line : UInt32) (text : List Char) :
    Stands line text (read line text).valueRange (read line text).value.toList := by
  obtain ⟨before, between, after, hlaid⟩ := laid_read line text
  exact ⟨before ++ (read line text).key.toList ++ between, after, hlaid.split, hlaid.value⟩

theorem line_of_stands {line : UInt32} {text chars : List Char} {r : Range}
    (h : Stands line text r chars) : r.start.line = line := by
  obtain ⟨before, after, -, rfl⟩ := h
  rfl

end DocNav.Item
