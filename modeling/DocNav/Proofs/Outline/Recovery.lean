/-
  DocNav.Proofs.Outline.Recovery
  ──────────────────────────────
  What is written is read back.

  The outline of a text is that of the lines it spells, whatever ends them
  (`parse_of_spells`).  A line that is written for a key and a value, with
  or without quotes, is read as that key and that value
  (`Legible.said_read_line`): the first colon is the one after the key, the
  last quote is the one after the value, and nothing that stands in the
  value can take their place.
-/
import DocNav.Proofs.Outline.Builder
import DocNav.Proofs.Text.Spelling

namespace DocNav

open Text

/-! ## §1. Ends of lines. -/

namespace Outline

theorem parse_of_spells {ls : List (List Char)} {text : List Char} (h : Spells ls text)
    (hls : ∀ line ∈ ls, Bare line) : parse text = ofLines ls := by
  unfold parse
  rw [h.lines_eq hls]

/-- **Ends of lines do not show in an outline**: whatever ends each of some
lines, and whether or not the last is ended, the outline is that of the
lines themselves. -/
theorem parse_eq_of_spells (ls : List (List Char)) (hls : ∀ line ∈ ls, Bare line) :
    (∀ text, Spells ls text → parse text = ofLines ls)
    ∧ ∀ text text', Spells ls text → Spells ls text' → parse text = parse text' := by
  refine ⟨fun text h => parse_of_spells h hls, ?_⟩
  intro text text' h h'
  rw [parse_of_spells h hls, parse_of_spells h' hls]

/-- A blank line between two others, the second with a carriage return inside. -/
def threeLines : List (List Char) :=
  ["a:".toList, [], " b\rc: 1".toList]

/-- Ended in turn by the one and by the other, with and without an end at the end. -/
theorem parse_eq_of_spells_sample :
    (∀ line ∈ threeLines, Bare line)
    ∧ Spells threeLines "a:\n\r\n b\rc: 1".toList
    ∧ Spells threeLines "a:\r\n\n b\rc: 1\r\n".toList
    ∧ parse "a:\n\r\n b\rc: 1".toList = parse "a:\r\n\n b\rc: 1\r\n".toList := by
  have hbare : ∀ line ∈ threeLines, Bare line := by
    intro line hline
    simp only [threeLines, List.mem_cons, List.not_mem_nil, or_false] at hline
    obtain rfl | rfl | rfl := hline
    · exact ⟨by decide +kernel, by decide +kernel⟩
    · exact ⟨by decide, by decide⟩
    · exact ⟨by decide +kernel, by decide +kernel⟩
  have hopen : Spells threeLines "a:\n\r\n b\rc: 1".toList :=
    .ended "a:".toList .newline (.ended [] .returnNewline (.last (by decide +kernel)))
  have hclosed : Spells threeLines "a:\r\n\n b\rc: 1\r\n".toList :=
    .ended "a:".toList .returnNewline
      (.ended [] .newline (.ended " b\rc: 1".toList .returnNewline .nil))
  exact ⟨hbare, hopen, hclosed, (parse_eq_of_spells threeLines hbare).2 _ _ hopen hclosed⟩

end Outline

/-! ## §2. Written lines. -/

/-- How a value is written. -/
inductive Style where
  | plain
  | doubleQuoted
  | singleQuoted
  deriving Repr, DecidableEq

/-- The character that a value is enclosed in. -/
def Style.quote? : Style → Option Char
  | .plain => none
  | .doubleQuoted => some '"'
  | .singleQuoted => some '\''

/-- A value as it is written. -/
def Style.write (s : Style) (value : List Char) : List Char :=
  match s.quote? with
  | none => value
  | some quote => quote :: (value ++ [quote])

/-- A key and a value for a line. -/
structure Assignment where
  indent : Nat
  key : String
  value : String
  style : Style
  deriving Repr, DecidableEq

namespace Assignment

/-- The line that is written. -/
def line (a : Assignment) : List Char :=
  List.replicate a.indent ' ' ++ (a.key.toList ++ ':' :: ' ' :: a.style.write a.value.toList)

/-- The line with its newline. -/
def text (a : Assignment) : List Char :=
  a.line ++ ['\n']

/-- The key could not be taken for indentation and ends at the colon after
it, and both stay on their line.  A value without quotes could not be taken
for a gap before it, for a quoted one, or for one with an end of its line. -/
structure Legible (a : Assignment) : Prop where
  key_start : a.key.toList.head? ≠ some ' '
  key_colon : ':' ∉ a.key.toList
  key_newline : '\n' ∉ a.key.toList
  value_newline : '\n' ∉ a.value.toList
  plain_start : a.style = .plain → a.value.toList.head? ∉ [some ' ', some '"', some '\'']
  plain_end : a.style = .plain → a.value.toList.getLast? ≠ some '\r'

instance (a : Assignment) : Decidable a.Legible :=
  decidable_of_iff
    (a.key.toList.head? ≠ some ' ' ∧ ':' ∉ a.key.toList ∧ '\n' ∉ a.key.toList
      ∧ '\n' ∉ a.value.toList
      ∧ (a.style = .plain → a.value.toList.head? ∉ [some ' ', some '"', some '\''])
      ∧ (a.style = .plain → a.value.toList.getLast? ≠ some '\r'))
    ⟨fun ⟨h₁, h₂, h₃, h₄, h₅, h₆⟩ => ⟨h₁, h₂, h₃, h₄, h₅, h₆⟩,
      fun ⟨h₁, h₂, h₃, h₄, h₅, h₆⟩ => ⟨h₁, h₂, h₃, h₄, h₅, h₆⟩⟩

end Assignment

/-! ## §3. Reading a written line. -/

/-- The value after one space: the rest of the line, or what its quotes enclose. -/
theorem Item.value?_space {c : Char} (hc : c ≠ ' ') (cs : List Char) :
    value? (' ' :: c :: cs)
      = if isQuote c then (beforeLast c cs).map (2, ·) else some (1, c :: cs) := by
  have hgap : (' ' :: c :: cs).takeWhile (· == ' ') = [' '] := by
    rw [List.takeWhile_cons_of_pos (by simp), List.takeWhile_cons_of_neg (by simpa using hc)]
  unfold value?
  rw [hgap]
  rfl

/-- A value that begins with neither a space nor a quote is read as it stands. -/
theorem Item.value?_plain {value : List Char}
    (h : value.head? ∉ [some ' ', some '"', some '\'']) :
    (value? (' ' :: value)).elim [] (·.2) = value := by
  cases value with
  | nil => rfl
  | cons c cs =>
    simp only [List.head?_cons, List.mem_cons, Option.some.injEq, List.not_mem_nil, or_false,
      not_or] at h
    obtain ⟨hspace, hdouble, hsingle⟩ := h
    have hno : isQuote c = false := by simp [isQuote, hdouble, hsingle]
    rw [value?_space hspace, hno]
    rfl

/-- Whatever stands in a quoted value, the last quote of the line is the one
that is written after it. -/
theorem Item.value?_quoted {quote : Char} (h : isQuote quote = true) (value : List Char) :
    value? (' ' :: quote :: (value ++ [quote])) = some (2, value) := by
  have hspace : quote ≠ ' ' := by
    rintro rfl
    cases h
  rw [value?_space hspace, if_pos h, beforeLast_concat]
  rfl

/-- A line is its indentation and its key, up to the first colon. -/
theorem Item.parts_of_key {key : List Char} (hstart : key.head? ≠ some ' ') (hcolon : ':' ∉ key)
    (indent : Nat) (after : List Char) :
    indentation (List.replicate indent ' ' ++ (key ++ ':' :: after)) = List.replicate indent ' '
    ∧ keyPart (List.replicate indent ' ' ++ (key ++ ':' :: after)) = key
    ∧ afterKey (List.replicate indent ' ' ++ (key ++ ':' :: after)) = ':' :: after := by
  have hspaces : ∀ c ∈ List.replicate indent ' ', (c == ' ') = true := by
    intro c hc
    rw [List.eq_of_mem_replicate hc]
    rfl
  have hkey : ∀ c ∈ key, (c != ':') = true := by
    intro c hc
    rw [bne_iff_ne]
    rintro rfl
    exact hcolon hc
  -- The key begins with no space, and neither does the colon after an empty key.
  have hkeyed : (key ++ ':' :: after).takeWhile (· == ' ') = []
      ∧ (key ++ ':' :: after).dropWhile (· == ' ') = key ++ ':' :: after := by
    cases key with
    | nil => exact ⟨rfl, rfl⟩
    | cons c key =>
      have hc : ¬ (c == ' ') = true := by
        intro hspace
        rw [beq_iff_eq] at hspace
        exact hstart (by rw [hspace]; rfl)
      exact ⟨List.takeWhile_cons_of_neg hc, List.dropWhile_cons_of_neg hc⟩
  unfold indentation keyPart afterKey
  rw [List.takeWhile_append_of_pos hspaces, List.dropWhile_append_of_pos hspaces, hkeyed.1,
    hkeyed.2, List.append_nil, List.takeWhile_append_of_pos hkey, List.dropWhile_append_of_pos hkey,
    List.takeWhile_cons_of_neg (by simp), List.dropWhile_cons_of_neg (by simp), List.append_nil]
  exact ⟨rfl, rfl, rfl⟩

/-- What a line says, wherever it says it. -/
def Item.said (item : Item) : Nat × String × String :=
  (item.indent, item.key, item.value)

/-- What a line with a colon says. -/
theorem Item.said_read {text after : List Char} (h : afterKey text = ':' :: after)
    (number : UInt32) :
    (read number text).said = ((indentation text).length, String.ofList (keyPart text),
      String.ofList ((value? after).elim [] (·.2))) := by
  rw [read_eq, h]
  cases hvalue : value? after with
  | none => simp only [hvalue]; rfl
  | some found => simp only [hvalue]; rfl

namespace Assignment

/-- What a line is written to say. -/
def said (a : Assignment) : Nat × String × String :=
  (a.indent, a.key, a.value)

theorem Legible.value?_write {a : Assignment} (h : a.Legible) :
    (Item.value? (' ' :: a.style.write a.value.toList)).elim [] (·.2) = a.value.toList := by
  cases hstyle : a.style with
  | plain => exact Item.value?_plain (h.plain_start hstyle)
  | doubleQuoted =>
    show (Item.value? (' ' :: '"' :: (a.value.toList ++ ['"']))).elim [] (·.2) = _
    rw [Item.value?_quoted rfl]
    rfl
  | singleQuoted =>
    show (Item.value? (' ' :: '\'' :: (a.value.toList ++ ['\'']))).elim [] (·.2) = _
    rw [Item.value?_quoted rfl]
    rfl

/-- A written line says what it was written to say. -/
theorem Legible.said_read_line {a : Assignment} (h : a.Legible) (number : UInt32) :
    (Item.read number a.line).said = a.said := by
  obtain ⟨hindent, hkey, hafter⟩ := Item.parts_of_key h.key_start h.key_colon a.indent
    (' ' :: a.style.write a.value.toList)
  unfold line
  rw [Item.said_read hafter, hindent, hkey, h.value?_write, List.length_replicate,
    String.ofList_toList, String.ofList_toList]
  rfl

/-- A written line is one line, and none of it is taken for its end. -/
theorem Legible.bare_line {a : Assignment} (h : a.Legible) : Bare a.line where
  single := by
    have hvalue : '\n' ∉ a.style.write a.value.toList := by
      unfold Style.write Style.quote?
      cases a.style <;> simp [h.value_newline]
    unfold line
    simp [h.key_newline, hvalue]
  last := by
    -- The line ends as its value is written to end, or with the space before an empty one.
    have hlast : a.line.getLast? = some ((a.style.write a.value.toList).getLast?.getD ' ') := by
      unfold line
      simp [List.getLast?_append, List.getLast?_cons]
    rw [hlast, ne_eq, Option.some.injEq]
    unfold Style.write
    cases hstyle : a.style with
    | plain =>
      have hend := h.plain_end hstyle
      show ¬ a.value.toList.getLast?.getD ' ' = '\r'
      cases hvalue : a.value.toList.getLast? with
      | none => decide
      | some c =>
        rw [hvalue] at hend
        rintro rfl
        exact hend rfl
    | doubleQuoted => simp [Style.quote?, List.getLast?_cons]
    | singleQuoted => simp [Style.quote?, List.getLast?_cons]

end Assignment

namespace Outline

/-! ## §4. Reading what was written. -/

/-- The entries say what their lines say, in order. -/
theorem map_toItem_entries_ofLines (ls : List (List Char)) :
    (ofLines ls).entries.toList.map Entry.toItem
      = ls.mapIdx fun i text => Item.read i.toUInt32 text := by
  refine List.ext_getElem? fun i => ?_
  rw [List.getElem?_map, Array.getElem?_toList, List.getElem?_mapIdx]
  exact item?_ofLines ls i

/-- **What is written is read back**: of lines that are written one after the
other there is one entry for each, in order, and it has the indentation, the
key and the value that the line was written for. -/
theorem said_parse_written (as : List Assignment) (h : ∀ a ∈ as, a.Legible) :
    (parse (as.flatMap Assignment.text)).entries.toList.map (·.toItem.said)
      = as.map Assignment.said := by
  have hspells : Spells (as.map Assignment.line) (as.flatMap Assignment.text) := by
    have hspells := spells_flatMap .newline (as.map Assignment.line)
    rw [List.flatMap_map] at hspells
    exact hspells
  have hbare : ∀ l ∈ as.map Assignment.line, Bare l := by
    intro l hl
    obtain ⟨a, ha, rfl⟩ := List.mem_map.mp hl
    exact (h a ha).bare_line
  rw [parse_of_spells hspells hbare]
  calc (ofLines (as.map Assignment.line)).entries.toList.map (·.toItem.said)
      = ((ofLines (as.map Assignment.line)).entries.toList.map Entry.toItem).map Item.said := by
        rw [List.map_map]
        rfl
    _ = ((as.map Assignment.line).mapIdx fun i text => Item.read i.toUInt32 text).map Item.said := by
        rw [map_toItem_entries_ofLines]
    _ = as.map Assignment.said := by
        refine List.ext_getElem? fun i => ?_
        simp only [List.getElem?_map, List.getElem?_mapIdx, Option.map_map]
        cases ha : as[i]? with
        | none => rfl
        | some a =>
          show some (Item.read i.toUInt32 a.line).said = some a.said
          rw [(h a (List.mem_of_getElem? ha)).said_read_line]

/-- Quotes in a key, an empty key with an empty value, and in the values a
carriage return at the end, a colon and quotes of both kinds. -/
def awkwardAssignments : List Assignment :=
  [⟨2, "a\"'b", "x: '\"y\"\r", .doubleQuoted⟩, ⟨0, "", "", .plain⟩,
    ⟨1, "k ", "v: \"z' ", .plain⟩, ⟨3, "\r", "", .singleQuoted⟩]

theorem said_parse_written_sample :
    (∀ a ∈ awkwardAssignments, a.Legible)
    ∧ (parse (awkwardAssignments.flatMap Assignment.text)).entries.toList.map (·.toItem.said)
      = [(2, "a\"'b", "x: '\"y\"\r"), (0, "", ""), (1, "k ", "v: \"z' "), (3, "\r", "")] := by
  have hlegible : ∀ a ∈ awkwardAssignments, a.Legible := by decide +kernel
  exact ⟨hlegible, said_parse_written awkwardAssignments hlegible⟩

end Outline

end DocNav
