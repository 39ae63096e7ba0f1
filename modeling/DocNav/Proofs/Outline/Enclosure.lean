/-
  DocNav.Proofs.Outline.Enclosure
  ───────────────────────────────
  Paths and pointers by indentation alone.

  A line encloses a later one if every line after it, down to that one, is
  indented more than it is.  The path of a line is made of the lines that
  enclose it (`Nested.onPath_iff_encloses`): the entry above a line
  encloses it, and so does what encloses that entry; the other way round,
  a line that encloses another is indented less, so it is the entry above
  or encloses that one.  So a pointer is written from the keys of the
  enclosing lines in their order (`lineage_eq_enclosing`), and what stands
  below a line is the block of deeper lines that follows it
  (`Nested.onPath_block_iff`).
-/
import DocNav.Proofs.Outline.Access
import DocNav.Proofs.Outline.Nesting

namespace DocNav.Outline

variable {o : Outline} {i p q : Nat}

/-! ## §1. Enclosing lines. -/

/-- Every line after `p` down to `i` is indented more than `p`. -/
def Encloses (o : Outline) (p i : Nat) : Prop :=
  p ≤ i ∧ ∀ j, p < j → j ≤ i → o.indentAt p < o.indentAt j

instance (o : Outline) (p i : Nat) : Decidable (o.Encloses p i) :=
  inferInstanceAs (Decidable (p ≤ i ∧ ∀ j, p + 1 ≤ j → j ≤ i → o.indentAt p < o.indentAt j))

/-- The lines that enclose a line, in order; it is the last of them. -/
def enclosing (o : Outline) (i : Nat) : List Nat :=
  (List.range (i + 1)).filter fun p => o.Encloses p i

theorem encloses_refl (o : Outline) (i : Nat) : o.Encloses i i := by
  refine ⟨Nat.le_refl i, ?_⟩
  intro j hj hle
  omega

theorem Encloses.trans (hp : o.Encloses p q) (hq : o.Encloses q i) : o.Encloses p i := by
  refine ⟨Nat.le_trans hp.1 hq.1, ?_⟩
  intro j hj hle
  by_cases hjq : j ≤ q
  · exact hp.2 j hj hjq
  · -- Past `q` every line is indented more than `q`, which is indented no less than `p`.
    have hdeep := hq.2 j (by omega) hle
    rcases Nat.eq_or_lt_of_le hp.1 with rfl | hlt
    · exact hdeep
    · exact Nat.lt_trans (hp.2 q hlt (Nat.le_refl q)) hdeep

theorem Encloses.of_le (h : o.Encloses p i) (hpq : p ≤ q) (hqi : q ≤ i) : o.Encloses p q := by
  refine ⟨hpq, ?_⟩
  intro j hj hle
  exact h.2 j hj (Nat.le_trans hle hqi)

/-! ## §2. Paths. -/

theorem lt_size_of_parent? (h : o.parent? i = some p) : i < o.size := by
  obtain ⟨e, he, -⟩ := Option.bind_eq_some_iff.mp h
  exact lt_size_of_place? (place?_eq_some_iff.mpr ⟨e, he, rfl, rfl⟩)

theorem Nested.encloses_of_parent? (h : o.Nested) (hp : o.parent? i = some p) :
    o.Encloses p i := by
  have hgreatest := (h i (lt_size_of_parent? hp) p).mp hp
  have hlt : p < i := hgreatest.1.1
  have hless : o.indentAt p < o.indentAt i := hgreatest.1.2
  refine ⟨Nat.le_of_lt hlt, ?_⟩
  intro j hj hle
  by_contra hge
  -- Then `j` is a nearer line than `p` that is indented less than `i`.
  have hji : j < i := by
    rcases Nat.eq_or_lt_of_le hle with rfl | hji
    · omega
    · exact hji
  have hjp : j ≤ p := hgreatest.2 ⟨hji, by omega⟩
  omega

theorem Nested.encloses_of_onPath (h : o.Nested) (hp : o.OnPath i p) : o.Encloses p i := by
  induction hp with
  | refl => exact encloses_refl o i
  | tail _ hstep ih => exact (h.encloses_of_parent? hstep).trans ih

/-- **The path of a line** is made of the lines that enclose it. -/
theorem Nested.onPath_iff_encloses (h : o.Nested) (hi : i < o.size) :
    o.OnPath i p ↔ o.Encloses p i := by
  refine ⟨h.encloses_of_onPath, ?_⟩
  intro hp
  -- Going up from `i` comes nearer to `p` with each entry, and never goes past it.
  induction i using Nat.strong_induction_on with
  | _ i ih =>
    rcases Nat.eq_or_lt_of_le hp.1 with rfl | hlt
    · exact .refl
    · have hless := hp.2 i hlt (Nat.le_refl i)
      obtain ⟨above, habove⟩ :=
        exists_isGreatest (P := fun j => o.indentAt j < o.indentAt i) hlt hless
      have hai : above < i := habove.1.1
      have hpa : p ≤ above := habove.2 ⟨hlt, hless⟩
      have hrest := ih above hai (Nat.lt_trans hai hi) (hp.of_le hpa (Nat.le_of_lt hai))
      exact .head ((h i hi above).mpr habove) hrest

/-- Each line of a lineage comes before the one it is above. -/
theorem Linked.decreasing_lineage (h : o.Linked) (hi : i < o.size) :
    (o.lineage i).Pairwise (· > ·) := by
  induction i using Nat.strong_induction_on with
  | _ i ih =>
    obtain ⟨parent, key, hplace⟩ := exists_place? hi
    rw [h.lineage_of_place? hplace, List.pairwise_cons]
    cases parent with
    | none => simp
    | some above =>
      have habove := h.nested i above key hplace
      have hsize := Nat.lt_trans habove hi
      refine ⟨?_, ih above habove hsize⟩
      intro m hm
      have hle := h.le_of_onPath ((h.mem_lineage_iff hsize).mp hm)
      omega

/-- The lineage of a line are the lines that enclose it, the last one first. -/
theorem lineage_eq_enclosing (hlinked : o.Linked) (hnested : o.Nested) (hi : i < o.size) :
    (o.lineage i).reverse = o.enclosing i := by
  have hlineage : (o.lineage i).reverse.Pairwise (· < ·) :=
    List.pairwise_reverse.mpr (hlinked.decreasing_lineage hi)
  have henclosing : (o.enclosing i).Pairwise (· < ·) := List.pairwise_lt_range.filter _
  -- Both lists are in order, so it is enough that they hold the same lines.
  refine hlineage.eq_of_mem_iff henclosing ?_
  intro m
  unfold enclosing
  rw [List.mem_reverse, hlinked.mem_lineage_iff hi, hnested.onPath_iff_encloses hi,
    List.mem_filter, List.mem_range, decide_eq_true_eq, Nat.lt_succ_iff]
  exact ⟨fun h => ⟨h.1, h⟩, fun h => h.2⟩

/-- Of two lines of a lineage the one further up is indented less. -/
theorem indents_lineage_decrease (hlinked : o.Linked) (hnested : o.Nested) (hi : i < o.size) :
    ((o.lineage i).map o.indentAt).Pairwise (· > ·) := by
  rw [List.pairwise_map]
  refine (hlinked.decreasing_lineage hi).imp_of_mem ?_
  intro x y hx hy hlt
  have hencloses := hnested.encloses_of_onPath ((hlinked.mem_lineage_iff hi).mp hy)
  exact hencloses.2 x hlt (hlinked.le_of_onPath ((hlinked.mem_lineage_iff hi).mp hx))

/-- With each line further up at least one space is lost. -/
theorem length_lineage_le (hlinked : o.Linked) (hnested : o.Nested) (hi : i < o.size) :
    (o.lineage i).length ≤ o.indentAt i + 1 := by
  induction i using Nat.strong_induction_on with
  | _ i ih =>
    obtain ⟨parent, key, hplace⟩ := exists_place? hi
    rw [hlinked.lineage_of_place? hplace, List.length_cons]
    cases parent with
    | none => simp
    | some above =>
      have habove := hlinked.nested i above key hplace
      have hless := ((hnested i hi above).mp (parent?_of_place? hplace)).1.2
      have hlength := ih above habove (Nat.lt_trans habove hi)
      show (o.lineage above).length + 1 ≤ o.indentAt i + 1
      omega

/-! ## §3. What stands below a line. -/

/-- The lines after `i` and before `stop` are indented more than `i`, and
`stop` is not, or there is no line there. -/
structure Block (o : Outline) (i stop : Nat) : Prop where
  after : i < stop
  within : stop ≤ o.size
  deeper : ∀ j, i < j → j < stop → o.indentAt i < o.indentAt j
  ended : stop < o.size → o.indentAt stop ≤ o.indentAt i

theorem exists_block (hi : i < o.size) : ∃ stop, o.Block i stop := by
  have hends : ∃ k, i < k ∧ (k < o.size → o.indentAt k ≤ o.indentAt i) :=
    ⟨o.size, hi, fun hlt => absurd hlt (Nat.lt_irrefl _)⟩
  -- The block ends at the first line that is not deeper, or after the last line.
  refine ⟨Nat.find hends, (Nat.find_spec hends).1, Nat.find_min' hends ⟨hi, ?_⟩, ?_,
    (Nat.find_spec hends).2⟩
  · intro hlt
    exact absurd hlt (Nat.lt_irrefl _)
  · intro j hj hstop
    have hmin := Nat.find_min hends hstop
    push Not at hmin
    exact (hmin hj).2

/-- Below a line stand the lines of the block that follows it. -/
theorem Nested.onPath_block_iff (h : o.Nested) {stop : Nat} (hblock : o.Block i stop) :
    q ≠ i ∧ o.OnPath q i ↔ i < q ∧ q < stop := by
  constructor
  · rintro ⟨hne, hpath⟩
    have hencloses := h.encloses_of_onPath hpath
    have hle := hencloses.1
    have hq : q < o.size := by
      rcases Relation.ReflTransGen.cases_head hpath with heq | ⟨above, habove, -⟩
      · exact absurd heq hne
      · exact lt_size_of_parent? habove
    refine ⟨by omega, ?_⟩
    by_contra hge
    -- Then the line that ends the block would be indented more than `i`.
    have hdeeper := hencloses.2 stop hblock.after (by omega)
    have hended := hblock.ended (by omega)
    omega
  · rintro ⟨hlt, hstop⟩
    have hwithin := hblock.within
    refine ⟨by omega, (h.onPath_iff_encloses (by omega)).mpr ⟨Nat.le_of_lt hlt, ?_⟩⟩
    intro j hj hle
    exact hblock.deeper j hj (by omega)

/-! ## §4. Outlines that are read. -/

/-- The key of a line. -/
def key? (o : Outline) (line : Nat) : Option String :=
  (o.entry? line).map (·.key)

/-- Going up from a line to its root ends, having passed these entries. -/
structure Ascent (o : Outline) (i : Nat) (walk : List (Nat × Entry)) : Prop where
  ends : o.climb i = .ok walk
  /-- They are those of the lines that enclose the line. -/
  lines : (walk.map (·.1)).reverse = o.enclosing i
  entries : ∀ x ∈ walk, o.entry? x.1 = some x.2
  /-- Each comes before the one it is above, and is indented less. -/
  linesDecrease : (walk.map (·.1)).Pairwise (· > ·)
  indentsDecrease : (walk.map (·.2.indent)).Pairwise (· > ·)
  short : walk.length ≤ o.indentAt i + 1

theorem exists_ascent (hlinked : o.Linked) (hnested : o.Nested) (hi : i < o.size) :
    ∃ walk, o.Ascent i walk := by
  obtain ⟨walk, hwalk, hlines, hentries⟩ := hlinked.exists_climb hi
  have hindents : walk.map (·.2.indent) = (o.lineage i).map o.indentAt := by
    rw [← hlines, List.map_map]
    refine List.map_congr_left ?_
    intro x hx
    show x.2.indent = ((o.item? x.1).map Item.indent).getD 0
    unfold item?
    rw [hentries x hx]
    rfl
  refine ⟨walk, hwalk, ?_, hentries, ?_, ?_, ?_⟩
  · rw [hlines, lineage_eq_enclosing hlinked hnested hi]
  · rw [hlines]
    exact hlinked.decreasing_lineage hi
  · rw [hindents]
    exact indents_lineage_decrease hlinked hnested hi
  · rw [← List.length_map (·.1), hlines]
    exact length_lineage_le hlinked hnested hi

/-- **Pointers by indentation**: the pointer of a line is written from the
keys of the lines that enclose it, in their order.  Going up to them ends,
each step leads to an earlier line that is indented less, and there are no
more of them than the line has spaces, and one.  What stands below the
line is the block of deeper lines that follows it. -/
theorem pointerOf?_enclosing (source : List Char) (i : Nat) (hi : i < (parse source).size) :
    (parse source).pointerOf? i
      = some ("#/" ++ "/".intercalate
          (((parse source).enclosing i).filterMap (parse source).key?))
    ∧ (∃ walk, (parse source).Ascent i walk)
    ∧ ∃ stop, (parse source).Block i stop
      ∧ ∀ q, q ≠ i ∧ (parse source).OnPath q i ↔ i < q ∧ q < stop := by
  have hlinked := linked_parse source
  have hnested := nested_parse source
  refine ⟨?_, exists_ascent hlinked hnested hi, ?_⟩
  · rw [pointerOf?_of_lt hi]
    unfold keys
    rw [lineage_eq_enclosing hlinked hnested hi]
    rfl
  · obtain ⟨stop, hblock⟩ := exists_block hi
    exact ⟨stop, hblock, fun q => hnested.onPath_block_iff hblock⟩

/-- A blank line before an indented one, and a line that goes back by one space. -/
def steppedText : List Char :=
  "a:\n\n  b:\n    c: 1\n   d: 2\ne:".toList

/-- The blank line is on the path with its empty key, the deeper line before is not. -/
theorem pointerOf?_enclosing_sample :
    4 < (parse steppedText).size
    ∧ (parse steppedText).enclosing 4 = [1, 2, 4]
    ∧ (parse steppedText).pointerOf? 4 = some "#//b/d"
    ∧ ∃ walk, (parse steppedText).Ascent 4 walk := by
  have hi : 4 < (parse steppedText).size := by decide +kernel
  have hkeys : ((parse steppedText).enclosing 4).filterMap (parse steppedText).key?
      = ["", "b", "d"] := by
    decide +kernel
  obtain ⟨hpointer, hascent, -⟩ := pointerOf?_enclosing steppedText 4 hi
  rw [hkeys] at hpointer
  exact ⟨hi, by decide +kernel, hpointer, hascent⟩

end DocNav.Outline
