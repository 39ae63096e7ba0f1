/-
  DocNav.Proofs.Text.Parts
  ────────────────────────
  A text cut at its last mark.

  `wholePart mark xs` is the text up to its last mark and with it, and
  `lastPart mark xs` is what stands after that mark, or all of the text if
  there is no mark.  With the newline as mark these are the lines that are
  ended and the line that is begun; with the slash the second is the last
  key of a pointer.  A text without a begun line is `Whole`.
-/
import DocNav.Text.Lines
import Mathlib

namespace DocNav.Text

variable {α : Type}

/-! ## §1. Whole texts. -/

/-- The text is empty or ends in a `mark`. -/
def Whole (mark : α) (xs : List α) : Prop :=
  xs = [] ∨ ∃ front, xs = front ++ [mark]

theorem whole_nil (mark : α) : Whole mark [] := .inl rfl

theorem whole_concat (mark : α) (xs : List α) : Whole mark (xs ++ [mark]) := .inr ⟨xs, rfl⟩

theorem whole_cons {mark x : α} {front : List α} (h : Whole mark front)
    (hx : x = mark ∨ front ≠ []) : Whole mark (x :: front) := by
  obtain rfl | ⟨xs, rfl⟩ := h
  · obtain rfl | h := hx
    · exact whole_concat x []
    · exact absurd rfl h
  · exact whole_concat mark (x :: xs)

/-! ## §2. The two parts. -/

variable [DecidableEq α]

/-- The part of a text up to its last `mark`, and with it. -/
def wholePart (mark : α) (xs : List α) : List α :=
  xs.rdropWhile (· != mark)

/-- The part of a text after its last `mark`. -/
def lastPart (mark : α) (xs : List α) : List α :=
  xs.rtakeWhile (· != mark)

theorem wholePart_append_lastPart (mark : α) (xs : List α) :
    wholePart mark xs ++ lastPart mark xs = xs :=
  List.rdropWhile_append_rtakeWhile

theorem not_mem_lastPart (mark : α) (xs : List α) : mark ∉ lastPart mark xs := by
  intro h
  have h' := List.mem_rtakeWhile_imp h
  simp at h'

theorem whole_wholePart (mark : α) (xs : List α) : Whole mark (wholePart mark xs) := by
  by_cases h : wholePart mark xs = []
  · exact .inl h
  · have hlast := List.rdropWhile_last_not _ xs h
    have hmark : (wholePart mark xs).getLast h = mark := by
      simpa [wholePart] using hlast
    refine .inr ⟨(wholePart mark xs).dropLast, ?_⟩
    conv_lhs => rw [← List.dropLast_append_getLast h, hmark]

/-- What stands after a whole part and has no mark is the last part. -/
theorem lastPart_append {mark : α} {front back : List α} (hfront : Whole mark front)
    (hback : mark ∉ back) : lastPart mark (front ++ back) = back := by
  unfold lastPart List.rtakeWhile
  rw [List.reverse_append, List.takeWhile_append_of_pos]
  · obtain rfl | ⟨xs, rfl⟩ := hfront
    · simp
    · simp
  · intro x hx
    simp only [bne_iff_ne, ne_eq]
    rintro rfl
    exact hback (List.mem_reverse.1 hx)

/-- A text is whole exactly when nothing stands after its last mark. -/
theorem whole_iff_lastPart_eq_nil {mark : α} {xs : List α} :
    Whole mark xs ↔ lastPart mark xs = [] := by
  constructor
  · intro h
    rw [← List.append_nil xs]
    exact lastPart_append h List.not_mem_nil
  · intro h
    have hparts := wholePart_append_lastPart mark xs
    rw [h, List.append_nil] at hparts
    rw [← hparts]
    exact whole_wholePart mark xs

/-- Without a mark, more text goes on with the last part. -/
theorem lastPart_append_of_not_mem {mark : α} {back : List α} (hback : mark ∉ back)
    (front : List α) : lastPart mark (front ++ back) = lastPart mark front ++ back := by
  conv_lhs => rw [← wholePart_append_lastPart mark front, List.append_assoc]
  refine lastPart_append (whole_wholePart mark front) ?_
  rw [List.mem_append, not_or]
  exact ⟨not_mem_lastPart mark front, hback⟩

/-- With a mark, more text has the last part to itself. -/
theorem lastPart_append_of_mem {mark : α} {back : List α} (hback : mark ∈ back)
    (front : List α) : lastPart mark (front ++ back) = lastPart mark back := by
  have hparts := wholePart_append_lastPart mark back
  obtain hnil | ⟨xs, hconcat⟩ := whole_wholePart mark back
  · rw [hnil, List.nil_append] at hparts
    rw [← hparts] at hback
    exact absurd hback (not_mem_lastPart mark back)
  · have hwhole : Whole mark (front ++ wholePart mark back) := by
      rw [hconcat, ← List.append_assoc]
      exact whole_concat mark (front ++ xs)
    conv_lhs => rw [← hparts, ← List.append_assoc]
    exact lastPart_append hwhole (not_mem_lastPart mark back)

theorem length_lastPart_le (mark : α) (xs : List α) : (lastPart mark xs).length ≤ xs.length := by
  conv_rhs => rw [← wholePart_append_lastPart mark xs, List.length_append]
  omega

theorem count_wholePart (mark : α) (xs : List α) :
    (wholePart mark xs).count mark = xs.count mark := by
  conv_rhs => rw [← wholePart_append_lastPart mark xs, List.count_append,
    List.count_eq_zero_of_not_mem (not_mem_lastPart mark xs), Nat.add_zero]

/-- A whole part without a mark is empty. -/
theorem eq_nil_of_whole {mark : α} {front : List α} (h : Whole mark front)
    (hcount : front.count mark = 0) : front = [] := by
  obtain rfl | ⟨xs, rfl⟩ := h
  · rfl
  · rw [List.count_append, List.count_singleton_self] at hcount
    omega

/-- Any number of marks that a text holds is held by a whole part at its front. -/
theorem exists_whole_of_le_count (mark : α) {xs : List α} {n : Nat} (h : n ≤ xs.count mark) :
    ∃ front back, xs = front ++ back ∧ Whole mark front ∧ front.count mark = n := by
  induction xs generalizing n with
  | nil => exact ⟨[], [], rfl, whole_nil mark, by simp at h; simp [h]⟩
  | cons x xs ih =>
    cases n with
    | zero => exact ⟨[], x :: xs, rfl, whole_nil mark, rfl⟩
    | succ n =>
      by_cases hx : x = mark
      · subst hx
        rw [List.count_cons_self] at h
        obtain ⟨front, back, rfl, hfront, hcount⟩ := ih (Nat.le_of_succ_le_succ h)
        exact ⟨x :: front, back, rfl, whole_cons hfront (.inl rfl),
          by rw [List.count_cons_self, hcount]⟩
      · rw [List.count_cons_of_ne hx] at h
        obtain ⟨front, back, rfl, hfront, hcount⟩ := ih h
        have hne : front ≠ [] := by
          rintro rfl
          simp at hcount
        exact ⟨x :: front, back, rfl, whole_cons hfront (.inr hne),
          by rw [List.count_cons_of_ne hx, hcount]⟩

end DocNav.Text
