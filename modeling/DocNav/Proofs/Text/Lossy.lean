/-
  DocNav.Proofs.Text.Lossy
  ────────────────────────
  Reading with a replacement, part by part.

  After its lead byte a broken sequence takes up continuation bytes only.
  So the pieces of two texts put together are the pieces of the one and
  then those of the other, unless the second text begins with a
  continuation byte (`pieces_append`).  A newline is no such byte: no
  broken sequence swallows one or reaches over it, and what is read has
  its newlines where the bytes have theirs (`count_lossy`,
  `whole_lossy`).
-/
import DocNav.Proofs.Text.Size

namespace DocNav.Utf8

open LineIndex Text

/-! ## §1. Pieces of two texts. -/

theorem following_le_length (n : Nat) (low high : UInt8) (bs : List UInt8) :
    following n low high bs ≤ bs.length := by
  induction n generalizing low high bs with
  | zero =>
    rw [following_zero]
    omega
  | succ n ih =>
    cases bs with
    | nil => exact Nat.le_refl 0
    | cons b bs =>
      have hbs := ih 0x80 0xBF bs
      unfold following
      rw [List.length_cons]
      split
      · omega
      · omega

/-- What begins with no continuation byte does not follow a lead byte. -/
theorem following_append {n : Nat} {low high : UInt8} (hlow : 0x80 ≤ low.toNat)
    (hhigh : high.toNat ≤ 0xBF) {back : List UInt8}
    (hback : ∀ b ∈ back.head?, isContinuation b = false) (bs : List UInt8) :
    following n low high (bs ++ back) = following n low high bs := by
  induction n generalizing low high bs with
  | zero => rw [following_zero, following_zero]
  | succ n ih =>
    cases bs with
    | nil =>
      cases back with
      | nil => rfl
      | cons b back =>
        have hb : ¬ (0x80 ≤ b.toNat ∧ b.toNat < 0xC0) := by
          rw [← isContinuation_iff, hback b rfl]
          decide
        show following (n + 1) low high (b :: back) = 0
        unfold following
        rw [if_neg]
        simp only [Bool.and_eq_true, decide_eq_true_eq, UInt8.le_iff_toNat_le]
        omega
    | cons b bs =>
      show following (n + 1) low high (b :: (bs ++ back)) = _
      unfold following
      rw [ih (by decide) (by decide)]

/-- A piece ends before any byte that is no continuation byte. -/
theorem Piece.front_append (lead : UInt8) (bs : List UInt8) {back : List UInt8}
    (hback : ∀ b ∈ back.head?, isContinuation b = false) :
    Piece.front lead (bs ++ back) = ((Piece.front lead bs).1, (Piece.front lead bs).2 ++ back) := by
  unfold Piece.front
  cases hform : Form.ofLead? lead with
  | none => rfl
  | some form =>
    obtain ⟨hlow, hhigh, -⟩ := Form.ofLead?_cases hform
    have hle := following_le_length form.trailing form.low form.high bs
    simp only [following_append hlow hhigh hback, List.take_append_of_le_length hle,
      List.drop_append_of_le_length hle]
    split <;> rfl

/-- The pieces of two texts put together. -/
theorem pieces_append (bs : List UInt8) {back : List UInt8}
    (hback : ∀ b ∈ back.head?, isContinuation b = false) :
    pieces (bs ++ back) = pieces bs ++ pieces back := by
  induction bs using pieces.induct with
  | case1 =>
    rw [List.nil_append, pieces.eq_1, List.nil_append]
  | case2 lead bs ih =>
    rw [List.cons_append, pieces.eq_2, Piece.front_append lead bs hback, ih, pieces.eq_2 lead bs]
    rfl

theorem lossy_append (bs : List UInt8) {back : List UInt8}
    (hback : ∀ b ∈ back.head?, isContinuation b = false) :
    lossy (bs ++ back) = lossy bs ++ lossy back := by
  unfold lossy
  rw [pieces_append bs hback, List.map_append]

theorem lossy_nil : lossy [] = [] :=
  lossy_encodeAll []

/-- Something is read wherever there is a byte. -/
theorem lossy_eq_nil_iff {bs : List UInt8} : lossy bs = [] ↔ bs = [] := by
  cases bs with
  | nil => simp [lossy_nil]
  | cons lead bs =>
    unfold lossy
    rw [pieces]
    simp

/-! ## §2. Newlines. -/

theorem isContinuation_newline : isContinuation newline = false := rfl

theorem lossy_newline (back : List UInt8) : lossy (newline :: back) = '\n' :: lossy back := by
  have hfront : Piece.front newline back = (.char '\n', back) := Piece.front_of_encode rfl
  unfold lossy
  rw [pieces, hfront]
  rfl

/-- A newline is read as it is, and so is what stands on either side. -/
theorem lossy_append_newline (bs back : List UInt8) :
    lossy (bs ++ newline :: back) = lossy bs ++ '\n' :: lossy back := by
  rw [lossy_append bs, lossy_newline]
  intro b hb
  obtain rfl : newline = b := Option.some.inj hb
  exact isContinuation_newline

/-- A whole part at the front of a text is read by itself. -/
theorem lossy_append_of_whole {front : List UInt8} (h : Whole newline front) (back : List UInt8) :
    lossy (front ++ back) = lossy front ++ lossy back := by
  obtain rfl | ⟨xs, rfl⟩ := h
  · rw [lossy_nil]
    rfl
  · rw [List.append_assoc, List.singleton_append, lossy_append_newline, lossy_append_newline,
      lossy_nil, List.append_assoc, List.singleton_append]

theorem whole_lossy {front : List UInt8} (h : Whole newline front) : Whole '\n' (lossy front) := by
  obtain rfl | ⟨xs, rfl⟩ := h
  · rw [lossy_nil]
    exact whole_nil '\n'
  · rw [lossy_append_newline, lossy_nil]
    exact whole_concat '\n' (lossy xs)

/-- As many newlines are read as there are newline bytes. -/
theorem count_lossy (bs : List UInt8) : (lossy bs).count '\n' = bs.count newline := by
  induction bs using pieces.induct with
  | case1 =>
    rw [lossy_nil]
    rfl
  | case2 lead bs ih =>
    have hlossy : lossy (lead :: bs)
        = (Piece.front lead bs).1.toChar :: lossy (Piece.front lead bs).2 := by
      unfold lossy
      rw [pieces]
      rfl
    rw [hlossy]
    obtain ⟨c, rest, hfront, hcons⟩ | ⟨tail, rest, hfront, rfl, hdecode, htail⟩ :=
      Piece.front_cases lead bs
    · -- A whole character: it is a newline when its bytes are one.
      rw [hfront] at ih ⊢
      have hc := count_encodeAll [c]
      rw [encodeAll_cons, encodeAll_nil, List.append_nil] at hc
      rw [hcons, List.count_append, hc, ← ih, ← List.count_append]
      rfl
    · -- A broken sequence: none of its bytes is a newline, and neither is what is read for it.
      rw [hfront] at ih ⊢
      have hlead : lead ≠ newline := by
        rintro rfl
        have hread := decode?_encode_append '\n' (tail ++ rest)
        rw [encode_newline, List.singleton_append, hdecode] at hread
        cases hread
      have hnone : newline ∉ tail := by
        intro hmem
        have h := htail newline hmem
        rw [isContinuation_newline] at h
        cases h
      rw [List.count_cons_of_ne hlead, List.count_append, List.count_eq_zero_of_not_mem hnone,
        Nat.zero_add, ← ih]
      show ('\uFFFD' :: lossy rest).count '\n' = _
      exact List.count_cons_of_ne (by decide)

theorem newline_mem_lossy_iff (bs : List UInt8) : '\n' ∈ lossy bs ↔ newline ∈ bs := by
  rw [← List.count_pos_iff, count_lossy, List.count_pos_iff]

end DocNav.Utf8
