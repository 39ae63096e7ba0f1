/-
  DocNav.Proofs.Buffer.LineIndex
  ──────────────────────────────
  What the line index of a text holds, and what bisection finds in it.

  A line starts where a whole part at the front of the text ends, and its
  number is the number of newlines before it (`start?_eq_some_iff`).
  Bisection finds, for an offset, the line that the newlines before that
  offset say it is on (`find?_ofBytes`).
-/
import DocNav.Buffer.LineIndex
import DocNav.Proofs.Text.Parts

namespace DocNav.LineIndex

open Text

/-! ## §1. The starts. -/

theorem startsAfter_append (offset : Nat) (xs ys : List UInt8) :
    startsAfter offset (xs ++ ys) = startsAfter offset xs ++ startsAfter (offset + xs.length) ys := by
  induction xs generalizing offset with
  | nil => rfl
  | cons x xs ih =>
    have hoffset : offset + (x :: xs).length = offset + 1 + xs.length := by
      rw [List.length_cons]
      omega
    rw [hoffset]
    simp only [List.cons_append, startsAfter, ih]
    split <;> simp

theorem length_startsAfter (offset : Nat) (bs : List UInt8) :
    (startsAfter offset bs).length = bs.count newline := by
  induction bs generalizing offset with
  | nil => rfl
  | cons b bs ih =>
    unfold startsAfter
    split
    next h => rw [h, List.length_cons, ih, List.count_cons_self]
    next h => rw [ih, List.count_cons_of_ne h]

/-- There is one more line than there are newlines. -/
@[simp] theorem count_ofBytes (bs : List UInt8) : (ofBytes bs).count = bs.count newline + 1 := by
  simp [count, ofBytes, length_startsAfter]

/-- A line starts after every whole part at the front of a text. -/
theorem start?_count {front : List UInt8} (h : Whole newline front) (back : List UInt8) :
    (ofBytes (front ++ back)).start? (front.count newline) = some front.length := by
  have hstarts : ∀ line, (ofBytes (front ++ back)).start? line
      = (0 :: startsAfter 0 (front ++ back))[line]? := by
    intro line
    simp [start?, ofBytes]
  obtain rfl | ⟨xs, rfl⟩ := h
  · rw [hstarts]
    rfl
  · -- The newline that ends `front` is the one that its start is recorded for.
    rw [hstarts, List.append_assoc, startsAfter_append]
    have hcount : (xs ++ [newline]).count newline = (startsAfter 0 xs).length + 1 := by
      rw [length_startsAfter, List.count_append]
      rfl
    rw [hcount, List.getElem?_cons_succ, List.getElem?_append_right (Nat.le_refl _), Nat.sub_self]
    simp [startsAfter]

/-- Where the lines of a text start. -/
theorem start?_eq_some_iff {bs : List UInt8} {line start : Nat} :
    (ofBytes bs).start? line = some start ↔
      ∃ front back, bs = front ++ back ∧ Whole newline front
        ∧ front.count newline = line ∧ front.length = start := by
  constructor
  · intro h
    have hline : line < (ofBytes bs).count := by
      obtain ⟨hlt, -⟩ := Array.getElem?_eq_some_iff.1 h
      exact hlt
    rw [count_ofBytes] at hline
    obtain ⟨front, back, rfl, hfront, rfl⟩ :=
      exists_whole_of_le_count newline (Nat.le_of_lt_succ hline)
    rw [start?_count hfront] at h
    exact ⟨front, back, rfl, hfront, rfl, Option.some.inj h⟩
  · rintro ⟨front, back, rfl, hfront, rfl, rfl⟩
    exact start?_count hfront back

/-! ## §2. Bisection. -/

/-- Bisection finds the number `k` of starts at or before an offset, if
these are the first `k`. -/
theorem bisect_eq {starts : Array Nat} {offset k n : Nat}
    (h : ∀ i < n, starts.getD i 0 ≤ offset ↔ i < k) (lo hi : Nat) (hlo : lo ≤ k) (hhi : k ≤ hi)
    (hn : hi ≤ n) : bisect starts offset lo hi = k := by
  -- What is kept is `lo ≤ k ≤ hi`; each probe moves one of the bounds past `mid`.
  fun_induction bisect starts offset lo hi with
  | case1 lo hi hlt mid hmid ih =>
    have hk : mid < k := (h mid (by omega)).1 hmid
    exact ih (by omega) hhi hn
  | case2 lo hi hlt mid hmid ih =>
    have hk : ¬ mid < k := fun hk => hmid ((h mid (by omega)).2 hk)
    exact ih hlo (by omega) (by omega)
  | case3 lo hi hge => omega

/-- A line starts at or before an offset exactly when there are that many
newlines before the offset. -/
theorem start_le_iff {bs : List UInt8} {line start : Nat} (h : (ofBytes bs).start? line = some start)
    (offset : Nat) : start ≤ offset ↔ line ≤ (bs.take offset).count newline := by
  obtain ⟨front, back, rfl, hfront, rfl, rfl⟩ := start?_eq_some_iff.1 h
  constructor
  · intro hle
    rw [List.take_append, List.take_of_length_le hle, List.count_append]
    omega
  · intro hle
    by_contra hlt
    -- Then the offset lies before the newline that ends `front`.
    obtain rfl | ⟨xs, rfl⟩ := hfront
    · simp at hlt
    · rw [List.length_append, List.length_singleton] at hlt
      have htake : (xs ++ [newline] ++ back).take offset = xs.take offset := by
        rw [List.append_assoc, List.take_append_of_le_length (by omega)]
      have hsub := (List.take_sublist offset xs).count_le newline
      rw [htake, List.count_append, List.count_singleton_self] at hle
      omega

/-- An offset after `mid` on the line that starts after `front` is found on
that line. -/
theorem find?_ofBytes {front mid : List UInt8} (hfront : Whole newline front)
    (hmid : newline ∉ mid) (back : List UInt8) :
    (ofBytes (front ++ mid ++ back)).find? (front.length + mid.length)
      = some (front.count newline, front.length) := by
  have hstart : (ofBytes (front ++ mid ++ back)).start? (front.count newline)
      = some front.length := by
    rw [List.append_assoc]
    exact start?_count hfront (mid ++ back)
  have htake : (front ++ mid ++ back).take (front.length + mid.length) = front ++ mid := by
    rw [← List.length_append, List.take_left]
  have hnewlines : (front ++ mid).count newline = front.count newline := by
    rw [List.count_append, List.count_eq_zero_of_not_mem hmid, Nat.add_zero]
  have hbisect : bisect (ofBytes (front ++ mid ++ back)).starts (front.length + mid.length) 0
      (ofBytes (front ++ mid ++ back)).count = front.count newline + 1 := by
    refine bisect_eq ?_ _ _ (Nat.zero_le _) ?_ (Nat.le_refl _)
    · intro line hline
      have hget : (ofBytes (front ++ mid ++ back)).start? line
          = some ((ofBytes (front ++ mid ++ back)).starts.getD line 0) := by
        simp only [start?, Array.getD_eq_getD_getElem?, Array.getElem?_eq_getElem hline,
          Option.getD_some]
      rw [start_le_iff hget, htake, hnewlines]
      omega
    · rw [count_ofBytes, List.count_append, hnewlines]
      omega
  simp only [find?, hbisect, hstart, Option.map_some]

end DocNav.LineIndex
