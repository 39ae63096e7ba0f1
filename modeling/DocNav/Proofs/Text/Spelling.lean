/-
  DocNav.Proofs.Text.Spelling
  ───────────────────────────
  The texts that spell some lines.

  A line is ended by a newline, or by a carriage return and a newline, and
  the last one need not be ended if anything stands on it (`Spells`).
  Lines that hold nothing of such an end themselves are read back from
  every text that spells them (`Spells.lines_eq`).
-/
import DocNav.Proofs.Text.Lines

namespace DocNav.Text

/-! ## §1. The end of a line. -/

/-- What ends a line. -/
inductive Ending where
  | newline
  | returnNewline
  deriving Repr, DecidableEq

/-- What stands before the newline that ends a line. -/
def Ending.returns : Ending → List Char
  | .newline => []
  | .returnNewline => ['\r']

/-- The characters that end a line. -/
def Ending.chars (e : Ending) : List Char :=
  e.returns ++ ['\n']

/-- The line holds no newline, and no carriage return stands at its end. -/
structure Bare (line : List Char) : Prop where
  single : '\n' ∉ line
  last : line.getLast? ≠ some '\r'

theorem Bare.dropReturn_eq {line : List Char} (h : Bare line) : dropReturn line = line :=
  if_neg h.last

theorem dropReturn_concat (line : List Char) : dropReturn (line ++ ['\r']) = line := by
  unfold dropReturn
  rw [List.getLast?_concat, if_pos rfl, List.dropLast_concat]

/-- Whatever ends a line, the line is what is said. -/
theorem Bare.content_ended {line : List Char} (h : Bare line) (e : Ending) :
    content (line ++ e.returns ++ ['\n']) = line := by
  unfold content
  rw [List.getLast?_concat, if_pos rfl, List.dropLast_concat]
  cases e with
  | newline =>
    show dropReturn (dropReturn (line ++ [])) = line
    rw [List.append_nil, h.dropReturn_eq, h.dropReturn_eq]
  | returnNewline =>
    -- The first of the two is the one that ends the line; there is no second.
    show dropReturn (dropReturn (line ++ ['\r'])) = line
    rw [dropReturn_concat, h.dropReturn_eq]

theorem Bare.lines_ended {line : List Char} (h : Bare line) (e : Ending) :
    lines (line ++ e.chars) = [line] := by
  have hsingle : '\n' ∉ line ++ e.returns := by
    rw [List.mem_append, not_or]
    refine ⟨h.single, ?_⟩
    cases e <;> simp [Ending.returns]
  unfold lines Ending.chars
  rw [← List.append_assoc, segments_line hsingle, List.map_singleton, h.content_ended]

theorem Bare.lines_last {line : List Char} (h : Bare line) (hne : line ≠ []) :
    lines line = [line] := by
  have hlast : line.getLast? ≠ some '\n' := fun hmem => h.single (List.mem_of_getLast? hmem)
  rw [Text.lines_last h.single, if_neg hne]
  unfold content
  rw [if_neg hlast, h.dropReturn_eq]

/-! ## §2. Texts of several lines. -/

/-- The text spells the lines: each of them and what ends it, one after the
other, where the last one may go without if it is not empty. -/
inductive Spells : List (List Char) → List Char → Prop
  | nil : Spells [] []
  | last {line : List Char} : line ≠ [] → Spells [line] line
  | ended (line : List Char) (e : Ending) {lines : List (List Char)} {text : List Char} :
      Spells lines text → Spells (line :: lines) (line ++ e.chars ++ text)

/-- Lines are read back from every text that spells them. -/
theorem Spells.lines_eq {ls : List (List Char)} {text : List Char} (h : Spells ls text)
    (hls : ∀ line ∈ ls, Bare line) : lines text = ls := by
  induction h with
  | nil => rfl
  | last hne => exact (hls _ (List.mem_singleton_self _)).lines_last hne
  | @ended line e ls text _ ih =>
    have hwhole : Whole '\n' (line ++ e.chars) := by
      unfold Ending.chars
      rw [← List.append_assoc]
      exact whole_concat '\n' (line ++ e.returns)
    have hfirst : Bare line := hls line List.mem_cons_self
    have hrest : lines text = ls := ih fun l hl => hls l (List.mem_cons_of_mem line hl)
    rw [lines_append_of_whole hwhole, hfirst.lines_ended, hrest, List.singleton_append]

/-- Lines that are all ended in the same way are spelled by the text of them. -/
theorem spells_flatMap (e : Ending) (ls : List (List Char)) :
    Spells ls (ls.flatMap (· ++ e.chars)) := by
  induction ls with
  | nil => exact .nil
  | cons line ls ih => exact .ended line e ih

end DocNav.Text
