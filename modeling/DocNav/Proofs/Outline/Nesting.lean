/-
  DocNav.Proofs.Outline.Nesting
  ─────────────────────────────
  The stack of open entries finds the nearest line that is indented less.

  A line stays open as long as every later line is indented more.  The
  stack holds the lines that are open and no others, the last one first
  (`Stacked`).  A line that is no longer there was closed by a line that
  is indented no more than it is, and that line is nearer to all that
  follows; so nothing that was thrown away is missed, and the entry above
  a new line is the last one that is indented less
  (`Stacked.above_eq_some_iff`).  What holds when a line is added goes on
  holding (`Layered.add`), for every text (`nested_ofLines`).
-/
import DocNav.Proofs.Outline.Path

namespace DocNav.Outline

/-! ## §1. Indentation. -/

/-- The indentation of a line; 0 if there is no such line. -/
def indentAt (o : Outline) (line : Nat) : Nat :=
  ((o.item? line).map Item.indent).getD 0

/-- The entry above each line is the nearest earlier one that is indented less. -/
def Nested (o : Outline) : Prop :=
  ∀ i < o.size, ∀ p,
    o.parent? i = some p ↔ IsGreatest {j | j < i ∧ o.indentAt j < o.indentAt i} p

/-- If a number below a bound has a property, there is a greatest one. -/
theorem exists_isGreatest {P : Nat → Prop} {n j : Nat} (hj : j < n) (h : P j) :
    ∃ g, IsGreatest {j | j < n ∧ P j} g := by
  refine BddAbove.exists_isGreatest_of_nonempty ⟨n, ?_⟩ ⟨j, hj, h⟩
  intro k hk
  exact Nat.le_of_lt hk.1

/-- A line has no entry above it exactly when no earlier one is indented less. -/
theorem Nested.parent?_eq_none_iff {o : Outline} (h : o.Nested) {i : Nat} (hi : i < o.size) :
    o.parent? i = none ↔ ∀ j < i, o.indentAt i ≤ o.indentAt j := by
  constructor
  · intro hnone j hj
    by_contra hlt
    obtain ⟨g, hg⟩ := exists_isGreatest (P := fun j => o.indentAt j < o.indentAt i) hj (by omega)
    rw [(h i hi g).mpr hg] at hnone
    cases hnone
  · intro hall
    cases hparent : o.parent? i with
    | none => rfl
    | some p =>
      have hp := ((h i hi p).mp hparent).1
      have hle := hall p hp.1
      have hlt := hp.2
      omega

namespace Builder

/-- The new line has the indentation that it says, and all others theirs. -/
theorem indentAt_add (b : Builder) (item : Item) (i : Nat) :
    (b.add item).outline.indentAt i
      = if i = b.outline.size then item.indent else b.outline.indentAt i := by
  unfold indentAt
  rw [item?_add]
  split <;> rfl

theorem parent?_add (b : Builder) (item : Item) (i : Nat) :
    (b.add item).outline.parent? i
      = if i = b.outline.size then b.above item.indent else b.outline.parent? i := by
  have hplace : ∀ o : Outline, o.parent? i = (o.place? i).bind Prod.fst := by
    intro o
    unfold parent? place?
    cases o.entry? i <;> rfl
  rw [hplace, hplace, place?_add]
  split <;> rfl

/-! ## §2. The stack. -/

/-- The line is one of the outline, and every later one is indented more. -/
structure StaysOpen (o : Outline) (x : Open) : Prop where
  line : x.line < o.size
  indent : x.indent = o.indentAt x.line
  deeper : ∀ j, x.line < j → j < o.size → x.indent < o.indentAt j

/-- The stack holds the lines that stay open, the last one first. -/
structure Stacked (b : Builder) : Prop where
  mem_iff : ∀ x, x ∈ b.stack ↔ StaysOpen b.outline x
  ordered : b.stack.Pairwise fun x y => y.line < x.line

/-- A line that is added closes those that are indented as much as it is or
more, and it is open itself. -/
theorem staysOpen_add {b : Builder} {item : Item} {x : Open} :
    StaysOpen (b.add item).outline x
      ↔ x = ⟨b.outline.size, item.indent⟩ ∨ (StaysOpen b.outline x ∧ x.indent < item.indent) := by
  constructor
  · rintro ⟨hline, hindent, hdeeper⟩
    rw [size_add] at hline hdeeper
    rw [indentAt_add] at hindent
    by_cases hnew : x.line = b.outline.size
    · rw [if_pos hnew] at hindent
      left
      rw [← hnew, ← hindent]
    · -- An earlier line is still open only if the new line is indented more.
      rw [if_neg hnew] at hindent
      right
      have hlast := hdeeper b.outline.size (by omega) (by omega)
      rw [indentAt_add, if_pos rfl] at hlast
      refine ⟨⟨by omega, hindent, ?_⟩, hlast⟩
      intro j hj hsize
      have hold := hdeeper j hj (by omega)
      rw [indentAt_add, if_neg (by omega)] at hold
      exact hold
  · rintro (rfl | ⟨⟨hline, hindent, hdeeper⟩, hlt⟩)
    · -- Nothing comes after the new line yet.
      refine ⟨?_, ?_, ?_⟩
      · rw [size_add]
        exact Nat.lt_succ_self _
      · rw [indentAt_add, if_pos rfl]
      · intro j hj hsize
        rw [size_add] at hsize
        have hafter : b.outline.size < j := hj
        omega
    · refine ⟨?_, ?_, ?_⟩
      · rw [size_add]
        omega
      · rw [indentAt_add, if_neg (by omega)]
        exact hindent
      · intro j hj hsize
        rw [size_add] at hsize
        rw [indentAt_add]
        split
        · exact hlt
        · exact hdeeper j hj (by omega)

/-- Where a property of one element is passed on to those before it, dropping
the first elements that have it drops all of them. -/
theorem mem_dropWhile_iff {α : Type} {p : α → Bool} {xs : List α} {x : α}
    (h : xs.Pairwise fun x y => p y = true → p x = true) :
    x ∈ xs.dropWhile p ↔ x ∈ xs ∧ p x = false := by
  induction xs with
  | nil => simp
  | cons first xs ih =>
    rw [List.pairwise_cons] at h
    by_cases hfirst : p first = true
    · rw [List.dropWhile_cons_of_pos hfirst, ih h.2, List.mem_cons]
      constructor
      · rintro ⟨hx, hpx⟩
        exact ⟨.inr hx, hpx⟩
      · rintro ⟨rfl | hx, hpx⟩
        · rw [hfirst] at hpx
          cases hpx
        · exact ⟨hx, hpx⟩
    · rw [List.dropWhile_cons_of_neg hfirst, iff_self_and, List.mem_cons]
      rintro (rfl | hx)
      · simpa using hfirst
      · by_contra hpx
        exact hfirst (h.1 x hx (by simpa using hpx))

/-- Of two open lines the later one is indented more, so what stays open
are all the open lines that are indented less than the new one. -/
theorem Stacked.mem_remaining_iff {b : Builder} (h : b.Stacked) {indent : Nat} {x : Open} :
    x ∈ b.remaining indent ↔ x ∈ b.stack ∧ x.indent < indent := by
  -- From the top down the indentation decreases, so what is to be closed is on top.
  have hordered : b.stack.Pairwise fun x y => y.indent < x.indent := by
    refine h.ordered.imp_of_mem ?_
    intro x y hx hy hlt
    have hx' := (h.mem_iff x).mp hx
    have hdeeper := ((h.mem_iff y).mp hy).deeper x.line hlt hx'.line
    rw [← hx'.indent] at hdeeper
    exact hdeeper
  have hkept : b.stack.Pairwise fun x y => indent ≤ y.indent → indent ≤ x.indent := by
    refine hordered.imp ?_
    intro x y hlt hle
    omega
  unfold remaining
  rw [mem_dropWhile_iff (by simpa using hkept), decide_eq_false_iff_not, Nat.not_le]

theorem Stacked.add {b : Builder} (h : b.Stacked) (item : Item) : (b.add item).Stacked where
  mem_iff := by
    intro x
    show x ∈ (⟨b.outline.size, item.indent⟩ : Open) :: b.remaining item.indent ↔ _
    rw [List.mem_cons, h.mem_remaining_iff, h.mem_iff, staysOpen_add]
  ordered := by
    show ((⟨b.outline.size, item.indent⟩ : Open) :: b.remaining item.indent).Pairwise _
    rw [List.pairwise_cons]
    refine ⟨?_, h.ordered.sublist (List.dropWhile_sublist _)⟩
    intro x hx
    exact ((h.mem_iff x).mp (mem_of_mem_remaining hx)).line

theorem stacked_start : Stacked start where
  mem_iff := by
    intro x
    constructor
    · intro hx
      cases hx
    · intro hx
      exact absurd hx.line (Nat.not_lt_zero _)
  ordered := .nil

/-! ## §3. The entry above a line. -/

/-- The nearest line that is indented less than some indentation is open:
every later one is indented at least that much. -/
theorem staysOpen_of_isGreatest {o : Outline} {indent p : Nat}
    (h : IsGreatest {j | j < o.size ∧ o.indentAt j < indent} p) :
    StaysOpen o ⟨p, o.indentAt p⟩ := by
  refine ⟨h.1.1, rfl, ?_⟩
  intro j hj hsize
  have hp : o.indentAt p < indent := h.1.2
  have hlt : p < j := hj
  show o.indentAt p < o.indentAt j
  by_contra hle
  have hjp : j ≤ p := h.2 ⟨hsize, by omega⟩
  omega

theorem Stacked.above_of_isGreatest {b : Builder} (h : b.Stacked) {indent p : Nat}
    (hp : IsGreatest {j | j < b.outline.size ∧ b.outline.indentAt j < indent} p) :
    b.above indent = some p := by
  have hmem : ⟨p, b.outline.indentAt p⟩ ∈ b.remaining indent :=
    h.mem_remaining_iff.mpr ⟨(h.mem_iff _).mpr (staysOpen_of_isGreatest hp), hp.1.2⟩
  have hordered : (b.remaining indent).Pairwise fun x y => y.line < x.line :=
    h.ordered.sublist (List.dropWhile_sublist _)
  unfold above
  cases hremaining : b.remaining indent with
  | nil =>
    rw [hremaining] at hmem
    cases hmem
  | cons top rest =>
    -- `p` is not below the top of the stack, and the top is indented less as well.
    have htop := h.mem_remaining_iff.mp (by rw [hremaining]; exact List.mem_cons_self)
    have hopen := (h.mem_iff top).mp htop.1
    have hle : top.line ≤ p := hp.2 ⟨hopen.line, by rw [← hopen.indent]; exact htop.2⟩
    rw [hremaining] at hmem hordered
    show some top.line = some p
    rcases List.mem_cons.mp hmem with heq | hmem
    · rw [← heq]
    · have hlt : p < top.line := (List.pairwise_cons.mp hordered).1 _ hmem
      omega

/-- **One line**: what the stack finds above it is the nearest line that is
indented less. -/
theorem Stacked.above_eq_some_iff {b : Builder} (h : b.Stacked) {indent p : Nat} :
    b.above indent = some p
      ↔ IsGreatest {j | j < b.outline.size ∧ b.outline.indentAt j < indent} p := by
  constructor
  · intro hp
    -- There is a nearest such line, since `p` is one, and the stack finds that one.
    have hmem := hp
    unfold above at hmem
    rw [Option.map_eq_some_iff] at hmem
    obtain ⟨x, hx, rfl⟩ := hmem
    have hx := h.mem_remaining_iff.mp (List.mem_of_mem_head? hx)
    have hopen := (h.mem_iff x).mp hx.1
    obtain ⟨g, hg⟩ := exists_isGreatest (P := fun j => b.outline.indentAt j < indent) hopen.line
      (by rw [← hopen.indent]; exact hx.2)
    have hfound := h.above_of_isGreatest hg
    rw [hp, Option.some.injEq] at hfound
    rw [hfound]
    exact hg
  · exact h.above_of_isGreatest

/-- What a builder keeps: its stack holds what is open, and its outline is
nested. -/
structure Layered (b : Builder) : Prop where
  stacked : b.Stacked
  nested : Nested b.outline

theorem layered_start : Layered start where
  stacked := stacked_start
  nested := by
    intro i hi
    exact absurd hi (Nat.not_lt_zero i)

theorem Layered.add {b : Builder} (h : b.Layered) (item : Item) : (b.add item).Layered where
  stacked := h.stacked.add item
  nested := by
    intro i hi p
    rw [size_add] at hi
    -- No line before the new one has changed its indentation.
    have hset : {j | j < i ∧ (b.add item).outline.indentAt j < (b.add item).outline.indentAt i}
        = {j | j < i ∧ b.outline.indentAt j < (b.add item).outline.indentAt i} := by
      ext j
      refine and_congr_right ?_
      intro hj
      rw [indentAt_add b item j, if_neg (by omega)]
    rw [hset, parent?_add, indentAt_add]
    -- The new line is placed by the stack, and every other line is where it was.
    by_cases hnew : i = b.outline.size
    · rw [if_pos hnew, if_pos hnew, hnew]
      exact h.stacked.above_eq_some_iff
    · rw [if_neg hnew, if_neg hnew]
      exact h.nested i (by omega) p

theorem layered_after (lines : List (List Char)) : Layered (after lines) :=
  invariant_after layered_start (fun _ item h => h.add item) lines

end Builder

/-! ## §4. All lines of a text. -/

theorem nested_ofLines (lines : List (List Char)) : Nested (ofLines lines) :=
  (Builder.layered_after lines).nested

theorem nested_parse (source : List Char) : (parse source).Nested :=
  nested_ofLines (Text.lines source)

/-- The text begins with that many spaces and no more. -/
def Indented (text : List Char) (n : Nat) : Prop :=
  ∃ rest, text = List.replicate n ' ' ++ rest ∧ rest.head? ≠ some ' '

/-- The indentation of an entry is that of its line. -/
theorem indented_ofLines {lines : List (List Char)} {i : Nat} {text : List Char}
    (h : lines[i]? = some text) : Indented text ((ofLines lines).indentAt i) := by
  have hindent : (ofLines lines).indentAt i = (Item.indentation text).length := by
    unfold indentAt
    rw [item?_ofLines, h]
    exact Item.indent_read i.toUInt32 text
  have hspaces : Item.indentation text = List.replicate (Item.indentation text).length ' ' := by
    rw [List.eq_replicate_iff]
    refine ⟨rfl, ?_⟩
    intro c hc
    simpa using List.mem_takeWhile_imp hc
  refine ⟨text.dropWhile (· == ' '), ?_, ?_⟩
  · rw [hindent, ← hspaces]
    exact List.takeWhile_append_dropWhile.symm
  · intro hspace
    have hhead := List.head?_dropWhile_not (· == ' ') text
    rw [hspace] at hhead
    exact absurd hhead (by decide)

/-- **Nesting by indentation**: every line has an entry, whose indentation
is the number of spaces that the line begins with.  Whatever the lines say,
the entry above one is the nearest earlier line with less indentation, and
only a line before which there is none such has nothing above it. -/
theorem parent?_nearest (source : List Char) (i : Nat) (hi : i < (parse source).size) :
    (parse source).size = (Text.lines source).length
    ∧ (∃ text, (Text.lines source)[i]? = some text ∧ Indented text ((parse source).indentAt i))
    ∧ (∀ p, (parse source).parent? i = some p
        ↔ IsGreatest {j | j < i ∧ (parse source).indentAt j < (parse source).indentAt i} p)
    ∧ ((parse source).parent? i = none
        ↔ ∀ j < i, (parse source).indentAt i ≤ (parse source).indentAt j) := by
  have hnested := nested_parse source
  have hsize : (parse source).size = (Text.lines source).length := size_ofLines _
  have htext := List.getElem?_eq_getElem (hsize ▸ hi)
  exact ⟨hsize, ⟨_, htext, indented_ofLines htext⟩, hnested i hi, hnested.parent?_eq_none_iff hi⟩

/-- A line that goes back to an indentation that was not there before, a
blank line, and a line without a key below it. -/
def unevenText : List Char :=
  "a:\n    b:\n  c:\n\n   - d\n  e: 1".toList

/-- The blank line takes the last two lines, of which neither is above the other. -/
theorem parent?_nearest_sample :
    5 < (parse unevenText).size
    ∧ (List.range 6).map (parse unevenText).parent? = [none, some 0, some 0, none, some 3, some 3]
    ∧ IsGreatest {j | j < 5 ∧ (parse unevenText).indentAt j < (parse unevenText).indentAt 5} 3 := by
  have hi : 5 < (parse unevenText).size := by decide +kernel
  have hparent : (parse unevenText).parent? 5 = some 3 := by decide +kernel
  exact ⟨hi, by decide +kernel, ((parent?_nearest unevenText 5 hi).2.2.1 3).mp hparent⟩

end DocNav.Outline
