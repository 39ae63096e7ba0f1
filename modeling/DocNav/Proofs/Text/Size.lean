/-
  DocNav.Proofs.Text.Size
  ───────────────────────
  The units of any bytes, well-formed or not.

  A piece is a character that can be read where it begins, or else a byte
  where none can be read with continuation bytes after it
  (`Piece.front_cases`).  No character begins with a continuation byte, so
  a broken sequence counts as many units as it has bytes in either way of
  counting (`sum_pieceSize`), and the counter in words is `size` brought
  down to a word (`length_eq_size`).  That number is at most the number of
  bytes, and it adds up over well-formed text in front.
-/
import DocNav.Proofs.Text.Units

namespace DocNav

open Utf8

namespace Utf8

/-! ## §1. What a piece is. -/

/-- What a lead byte asks for, by the number of bytes after it. -/
theorem Form.ofLead?_cases {lead : UInt8} {form : Form} (h : Form.ofLead? lead = some form) :
    0x80 ≤ form.low.toNat ∧ form.high.toNat ≤ 0xBF
    ∧ ((lead.toNat < 0x80 ∧ form.trailing = 0)
      ∨ (0xC2 ≤ lead.toNat ∧ lead.toNat < 0xE0 ∧ form.trailing = 1)
      ∨ (0xE0 ≤ lead.toNat ∧ lead.toNat < 0xF0 ∧ form.trailing = 2
        ∧ (lead.toNat = 0xE0 → 0xA0 ≤ form.low.toNat)
        ∧ (lead.toNat = 0xED → form.high.toNat ≤ 0x9F))
      ∨ (0xF0 ≤ lead.toNat ∧ lead.toNat < 0xF5 ∧ form.trailing = 3
        ∧ (lead.toNat = 0xF0 → 0x90 ≤ form.low.toNat)
        ∧ (lead.toNat = 0xF4 → form.high.toNat ≤ 0x8F))) := by
  rw [ofLead?_eq] at h
  split_ifs at h
  all_goals
    injection h with h
    subst h
    simp only [UInt8.toNat_ofNat, and_true, true_and]
    omega

/-- The first of the bytes that all follow, and the others. -/
theorem exists_cons_of_following {n : Nat} {low high : UInt8} {bs : List UInt8}
    (h : following (n + 1) low high bs = n + 1) :
    ∃ b rest, bs = b :: rest ∧ low.toNat ≤ b.toNat ∧ b.toNat ≤ high.toNat
      ∧ following n 0x80 0xBF rest = n := by
  cases bs with
  | nil => exact absurd h (by simp [following])
  | cons b rest =>
    unfold following at h
    split_ifs at h with hb
    simp only [Bool.and_eq_true, decide_eq_true_eq, UInt8.le_iff_toNat_le] at hb
    exact ⟨b, rest, rfl, hb.1, hb.2, by omega⟩

/-- The bytes that follow a lead byte are continuation bytes. -/
theorem isContinuation_of_mem_following {n : Nat} {low high : UInt8} {bs : List UInt8}
    (hlow : 0x80 ≤ low.toNat) (hhigh : high.toNat ≤ 0xBF) :
    ∀ b ∈ bs.take (following n low high bs), isContinuation b = true := by
  induction n generalizing low high bs with
  | zero => simp
  | succ n ih =>
    cases bs with
    | nil => simp
    | cons b bs =>
      unfold following
      split_ifs with hb
      · simp only [Bool.and_eq_true, decide_eq_true_eq, UInt8.le_iff_toNat_le] at hb
        intro d hd
        rw [List.take_succ_cons, List.mem_cons] at hd
        obtain rfl | hd := hd
        · rw [isContinuation_iff]
          omega
        · exact ih (by decide) (by decide) d hd
      · simp

theorem scalar?_of_value? {seq : List UInt8} {n : Nat} (hvalue : value? seq = some n)
    (hleast : least seq.length ≤ n) (hvalid : n.isValidChar) :
    scalar? seq = some (Char.ofNat n) := by
  simp only [scalar?, hvalue]
  rw [if_pos ⟨hleast, hvalid⟩]

/-- A lead byte and all the bytes it asks for spell a character. -/
theorem scalar?_of_following {lead : UInt8} {form : Form} {bs : List UInt8}
    (hform : Form.ofLead? lead = some form)
    (h : following form.trailing form.low form.high bs = form.trailing) :
    scalar? (lead :: bs.take form.trailing)
      = some (Char.ofNat (spelled lead (bs.take form.trailing))) := by
  obtain ⟨hlow, hhigh, hrow⟩ := Form.ofLead?_cases hform
  -- In each row the bounds on the second byte keep out what has no character.
  obtain ⟨hlead, hn⟩ | ⟨hlead, hlead', hn⟩ | ⟨hlead, hlead', hn, hE0, hED⟩ |
      ⟨hlead, hlead', hn, hF0, hF4⟩ := hrow <;> rw [hn] at h ⊢
  · refine scalar?_of_value? ?_ ?_ ?_
    · simp [value?, spelled, UInt8.lt_iff_toNat_lt, hlead]
    · simp [least]
    · simp [spelled, Nat.isValidChar]
      omega
  · obtain ⟨b, rest, rfl, hb, hb', -⟩ := exists_cons_of_following h
    refine scalar?_of_value? ?_ ?_ ?_
    · simp [value?, spelled, payload, isContinuation_iff, UInt8.lt_iff_toNat_lt,
        UInt8.le_iff_toNat_le]
      omega
    · simp [least, spelled]
      omega
    · simp [spelled, Nat.isValidChar]
      omega
  · obtain ⟨b, rest, rfl, hb, hb', h⟩ := exists_cons_of_following h
    obtain ⟨d, rest, rfl, hd, hd', -⟩ := exists_cons_of_following h
    simp only [UInt8.toNat_ofNat] at hd hd'
    refine scalar?_of_value? ?_ ?_ ?_
    · simp [value?, spelled, payload, isContinuation_iff, UInt8.lt_iff_toNat_lt,
        UInt8.le_iff_toNat_le]
      omega
    · simp [least, spelled]
      omega
    · simp [spelled, Nat.isValidChar]
      omega
  · obtain ⟨b, rest, rfl, hb, hb', h⟩ := exists_cons_of_following h
    obtain ⟨d, rest, rfl, hd, hd', h⟩ := exists_cons_of_following h
    obtain ⟨e, rest, rfl, he, he', -⟩ := exists_cons_of_following h
    simp only [UInt8.toNat_ofNat] at hd hd' he he'
    refine scalar?_of_value? ?_ ?_ ?_
    · simp [value?, spelled, payload, isContinuation_iff, UInt8.lt_iff_toNat_lt,
        UInt8.le_iff_toNat_le]
      omega
    · simp [least, spelled]
      omega
    · simp [spelled, Nat.isValidChar]
      omega

/-- A piece is a character that can be read there, or a byte where none can
be read with continuation bytes after it. -/
theorem Piece.front_cases (lead : UInt8) (bs : List UInt8) :
    (∃ c rest, Piece.front lead bs = (.char c, rest) ∧ lead :: bs = encode c ++ rest)
    ∨ ∃ tail rest, Piece.front lead bs = (.broken (lead :: tail), rest) ∧ bs = tail ++ rest
        ∧ decode? (lead :: bs) = none ∧ ∀ b ∈ tail, isContinuation b = true := by
  cases hdecode : decode? (lead :: bs) with
  | some read =>
    obtain ⟨c, rest⟩ := read
    have hcons := decode?_eq_some_iff.1 hdecode
    exact .inl ⟨c, rest, Piece.front_of_encode hcons, hcons⟩
  | none =>
    refine .inr ?_
    cases hform : Form.ofLead? lead with
    | none => exact ⟨[], bs, by simp only [Piece.front, hform], rfl, rfl, by simp⟩
    | some form =>
      obtain ⟨hlow, hhigh, -⟩ := Form.ofLead?_cases hform
      -- If all the bytes followed, the character that they spell could be read.
      have hn : following form.trailing form.low form.high bs ≠ form.trailing := by
        intro hn
        have hchar := scalar?_eq_some_iff.1 (scalar?_of_following hform hn)
        have hread := decode?_encode_append
          (Char.ofNat (spelled lead (bs.take form.trailing))) (bs.drop form.trailing)
        rw [← hchar, List.cons_append, List.take_append_drop, hdecode] at hread
        exact absurd hread (by simp)
      refine ⟨bs.take (following form.trailing form.low form.high bs),
        bs.drop (following form.trailing form.low form.high bs), ?_,
        (List.take_append_drop _ bs).symm, rfl, isContinuation_of_mem_following hlow hhigh⟩
      simp only [Piece.front, hform, if_neg hn]

/-- No character begins with a continuation byte. -/
theorem decode?_of_isContinuation {b : UInt8} (hb : isContinuation b = true) (bs : List UInt8) :
    decode? (b :: bs) = none := by
  rw [isContinuation_iff] at hb
  have hwidth : width b = 0 := by
    simp only [width, UInt8.lt_iff_toNat_lt, UInt8.toNat_ofNat]
    rw [if_neg (by omega), if_pos (by omega)]
  simp only [decode?, hwidth]
  rfl

end Utf8

namespace Utf16

/-! ## §2. Counting character by character. -/

@[simp] theorem size_nil : size [] = 0 := by
  rw [size]

theorem size_encode_append (c : Char) (bs : List UInt8) :
    size (encode c ++ bs) = (charUnits c).toNat + size bs := by
  obtain ⟨lead, tail, he, -⟩ := encode_eq_cons c
  have hdecode : decode? (lead :: (tail ++ bs)) = some (c, bs) := by
    rw [← List.cons_append, ← he, decode?_encode_append]
  rw [he, List.cons_append, size]
  split
  next d rest h =>
    rw [hdecode] at h
    simp only [Option.some.injEq, Prod.mk.injEq] at h
    rw [h.1, h.2]
  next h => exact absurd (hdecode.symm.trans h) (by simp)

theorem size_cons_of_decode?_eq_none {lead : UInt8} {bs : List UInt8}
    (h : decode? (lead :: bs) = none) : size (lead :: bs) = 1 + size bs := by
  rw [size]
  split
  next hsome => exact absurd (hsome.symm.trans h) (by simp)
  next => rfl

/-- Well-formed text in front adds its code units. -/
theorem size_encodeAll_append (cs : List Char) (bs : List UInt8) :
    size (encodeAll cs ++ bs) = codeUnits cs + size bs := by
  induction cs with
  | nil => simp
  | cons c cs ih =>
    rw [encodeAll_cons, List.append_assoc, size_encode_append, ih, codeUnits_cons, Nat.add_assoc]

theorem size_encodeAll (cs : List Char) : size (encodeAll cs) = codeUnits cs := by
  have h := size_encodeAll_append cs []
  rwa [List.append_nil, size_nil, Nat.add_zero] at h

/-- Continuation bytes in front count one by one. -/
theorem size_append_of_isContinuation {tail : List UInt8}
    (h : ∀ b ∈ tail, isContinuation b = true) (bs : List UInt8) :
    size (tail ++ bs) = tail.length + size bs := by
  induction tail with
  | nil => simp
  | cons b tail ih =>
    rw [List.forall_mem_cons] at h
    rw [List.cons_append, size_cons_of_decode?_eq_none (decode?_of_isContinuation h.1 _), ih h.2,
      List.length_cons]
    omega

/-- Any bytes have at most as many units as there are bytes. -/
theorem size_le_length (bs : List UInt8) : size bs ≤ bs.length := by
  fun_induction size bs with
  | case1 => simp
  | case2 lead tail c rest hdecode ih =>
    have hcons := congrArg List.length (decode?_eq_some_iff.1 hdecode)
    have hunits := charUnits_le_length_encode c
    rw [List.length_append] at hcons
    omega
  | case3 lead tail _ ih =>
    rw [List.length_cons]
    omega

/-- Any bytes at all have some units. -/
theorem size_pos {bs : List UInt8} (h : bs ≠ []) : 0 < size bs := by
  cases bs with
  | nil => exact absurd rfl h
  | cons lead tail =>
    rw [size]
    split
    next c rest _ =>
      have hc := charUnits_pos c
      omega
    next => omega

/-! ## §3. Counting piece by piece. -/

/-- The units of one piece, without a bound. -/
def pieceSize : Piece → Nat
  | .char c => (charUnits c).toNat
  | .broken bytes => bytes.length

/-- Counting by pieces and counting from place to place come to the same:
no character begins inside a broken sequence. -/
theorem sum_pieceSize (bs : List UInt8) : ((pieces bs).map pieceSize).sum = size bs := by
  induction bs using pieces.induct with
  | case1 =>
    rw [pieces, size_nil]
    rfl
  | case2 lead bs ih =>
    rw [pieces, List.map_cons, List.sum_cons]
    obtain ⟨c, rest, hfront, hcons⟩ | ⟨tail, rest, hfront, rfl, hdecode, htail⟩ :=
      Piece.front_cases lead bs
    · simp only [hfront] at ih ⊢
      rw [ih, hcons, size_encode_append]
      rfl
    · -- After the lead byte only continuation bytes are taken, and each counts as one.
      simp only [hfront] at ih ⊢
      rw [ih, size_cons_of_decode?_eq_none hdecode, size_append_of_isContinuation htail]
      show (lead :: tail).length + size rest = _
      rw [List.length_cons]
      omega

theorem toUInt32_add_units (n : Nat) (p : Piece) :
    n.toUInt32 + units p = (n + pieceSize p).toUInt32 := by
  cases p with
  | char c => exact toUInt32_add_charUnits n c
  | broken bytes =>
    rw [← UInt32.toNat_inj]
    simp [units, pieceSize]

theorem foldl_units (ps : List Piece) (n : Nat) :
    ps.foldl (fun n p => n + units p) n.toUInt32 = (n + (ps.map pieceSize).sum).toUInt32 := by
  induction ps generalizing n with
  | nil => rfl
  | cons p ps ih =>
    rw [List.foldl_cons, toUInt32_add_units, ih, List.map_cons, List.sum_cons, Nat.add_assoc]

/-- The counter in words is the number of units brought down to a word. -/
theorem length_eq_size (bs : List UInt8) : length bs = (size bs).toUInt32 := by
  have h := foldl_units (pieces bs) 0
  rw [Nat.zero_add, sum_pieceSize] at h
  exact h

/-- Up to a length that fits a word the counter in words is exact. -/
theorem toNat_length {bs : List UInt8} (h : bs.length < 2 ^ 32) :
    (length bs).toNat = size bs := by
  have hle := size_le_length bs
  rw [length_eq_size, toNat_toUInt32 (by omega)]

end Utf16

end DocNav
