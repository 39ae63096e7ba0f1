/-
  DocNav.Proofs.Text.Units
  ────────────────────────
  What the pieces and the UTF-16 counters make of well-formed text.

  The pieces of well-formed text are its characters (`pieces_encodeAll`),
  so reading it with a replacement changes nothing (`lossy_encodeAll`).
  The counters are 32-bit words; both are the number of code units of the
  characters, `codeUnits`, brought down to a word, and that number is at
  most the number of bytes.
-/
import DocNav.Text.Utf16
import DocNav.Proofs.Text.Encoding

namespace DocNav

open Utf8

namespace Utf16

/-! ## §1. Code units without a bound. -/

/-- The number of UTF-16 code units of a list of characters. -/
def codeUnits (cs : List Char) : Nat :=
  (cs.map fun c => if c.toNat < 0x10000 then 1 else 2).sum

@[simp] theorem codeUnits_nil : codeUnits [] = 0 := rfl

theorem toNat_charUnits (c : Char) :
    (charUnits c).toNat = if c.toNat < 0x10000 then 1 else 2 := by
  have h : c.val < 0x10000 ↔ c.toNat < 0x10000 := by
    rw [UInt32.lt_iff_toNat_lt]
    rfl
  simp only [charUnits, h]
  split_ifs <;> rfl

@[simp] theorem codeUnits_cons (c : Char) (cs : List Char) :
    codeUnits (c :: cs) = (charUnits c).toNat + codeUnits cs := by
  rw [toNat_charUnits]
  rfl

@[simp] theorem codeUnits_append (cs ds : List Char) :
    codeUnits (cs ++ ds) = codeUnits cs + codeUnits ds := by
  unfold codeUnits
  rw [List.map_append, List.sum_append]

theorem codeUnits_take_succ {cs : List Char} {k : Nat} (hk : k < cs.length) :
    codeUnits (cs.take (k + 1)) = codeUnits (cs.take k) + (charUnits cs[k]).toNat := by
  rw [← List.take_append_getElem hk, codeUnits_append, codeUnits_cons, codeUnits_nil, Nat.add_zero]

theorem codeUnits_take_le (cs : List Char) (k : Nat) : codeUnits (cs.take k) ≤ codeUnits cs := by
  conv_rhs => rw [← List.take_append_drop k cs, codeUnits_append]
  omega

theorem charUnits_pos (c : Char) : 0 < (charUnits c).toNat := by
  rw [toNat_charUnits]
  split_ifs <;> omega

theorem charUnits_le_length_encode (c : Char) : (charUnits c).toNat ≤ (encode c).length := by
  rw [toNat_charUnits]
  obtain ⟨_, a, he, _⟩ | ⟨_, _, a, b, he, _⟩ | ⟨_, _, a, b, d, he, _⟩ | ⟨_, a, b, d, e, he, _⟩ :=
    encode_cases c <;>
    simp only [he, List.length_cons, List.length_nil] <;>
    split_ifs <;> omega

/-- A text has no more code units than bytes. -/
theorem codeUnits_le_length_encodeAll (cs : List Char) :
    codeUnits cs ≤ (encodeAll cs).length := by
  induction cs with
  | nil => simp
  | cons c cs ih =>
    have hc := charUnits_le_length_encode c
    rw [codeUnits_cons, encodeAll_cons, List.length_append]
    omega

/-! ## §2. The counters in words. -/

theorem toUInt32_add_charUnits (units : Nat) (c : Char) :
    units.toUInt32 + charUnits c = (units + (charUnits c).toNat).toUInt32 := by
  rw [← UInt32.toNat_inj]
  simp

theorem foldl_charUnits (cs : List Char) (n : Nat) :
    cs.foldl (fun n c => n + charUnits c) n.toUInt32 = (n + codeUnits cs).toUInt32 := by
  induction cs generalizing n with
  | nil => simp
  | cons c cs ih =>
    rw [List.foldl_cons, toUInt32_add_charUnits, ih, codeUnits_cons, Nat.add_assoc]

theorem columns_eq (cs : List Char) : columns cs = (codeUnits cs).toUInt32 := by
  have h := foldl_charUnits cs 0
  rw [Nat.zero_add] at h
  exact h

theorem toNat_toUInt32 {n : Nat} (h : n < 2 ^ 32) : n.toUInt32.toNat = n := by
  rw [Nat.toUInt32_eq, UInt32.toNat_ofNat']
  exact Nat.mod_eq_of_lt h

end Utf16

namespace Utf8

/-! ## §3. Pieces of well-formed text. -/

theorem following_succ_cons {n : Nat} {low high b : UInt8} (bs : List UInt8)
    (hlow : low.toNat ≤ b.toNat) (hhigh : b.toNat ≤ high.toNat) :
    following (n + 1) low high (b :: bs) = following n 0x80 0xBF bs + 1 := by
  have hb : (decide (low ≤ b) && decide (b ≤ high)) = true := by
    simp only [Bool.and_eq_true, decide_eq_true_eq, UInt8.le_iff_toNat_le]
    exact ⟨hlow, hhigh⟩
  show (if (decide (low ≤ b) && decide (b ≤ high)) = true
    then following n 0x80 0xBF bs + 1 else 0) = _
  rw [if_pos hb]

@[simp] theorem following_zero (low high : UInt8) (bs : List UInt8) :
    following 0 low high bs = 0 := by
  cases bs <;> rfl

/-- The row of the table for a lead byte, by number. -/
theorem ofLead?_eq (lead : UInt8) :
    Form.ofLead? lead =
      if lead.toNat < 0x80 then some { trailing := 0 }
      else if lead.toNat < 0xC2 then none
      else if lead.toNat < 0xE0 then some { trailing := 1 }
      else if lead.toNat = 0xE0 then some { trailing := 2, low := 0xA0 }
      else if lead.toNat = 0xED then some { trailing := 2, high := 0x9F }
      else if lead.toNat < 0xF0 then some { trailing := 2 }
      else if lead.toNat = 0xF0 then some { trailing := 3, low := 0x90 }
      else if lead.toNat < 0xF4 then some { trailing := 3 }
      else if lead.toNat = 0xF4 then some { trailing := 3, high := 0x8F }
      else none := by
  simp only [Form.ofLead?, UInt8.lt_iff_toNat_lt, ← UInt8.toNat_inj, UInt8.toNat_ofNat]

/-- A lead byte and as many bytes as its row asks for make the character
that they spell. -/
theorem Piece.front_of_form {lead low high : UInt8} {c : Char} (tail rest : List UInt8)
    (hform : Form.ofLead? lead = some ⟨tail.length, low, high⟩)
    (hfollowing : following tail.length low high (tail ++ rest) = tail.length)
    (hspelled : spelled lead tail = c.toNat) :
    Piece.front lead (tail ++ rest) = (.char c, rest) := by
  simp only [Piece.front, hform, hfollowing]
  rw [if_pos trivial, List.take_left, List.drop_left, hspelled, Char.ofNat_toNat]

/-- Where the bytes of a character stand, that character is the piece. -/
theorem Piece.front_of_encode {lead : UInt8} {bs rest : List UInt8} {c : Char}
    (h : lead :: bs = encode c ++ rest) : Piece.front lead bs = (.char c, rest) := by
  have hc := toNat_isScalar c
  obtain ⟨_, a, he, ha⟩ | ⟨_, _, a, b, he, ha, hb⟩ | ⟨_, _, a, b, d, he, ha, hb, hd⟩ |
      ⟨_, a, b, d, e, he, ha, hb, hd, hf⟩ := encode_cases c <;>
    rw [he] at h <;> injection h with hlead hbs <;> rw [hbs] <;> subst hlead
  · have hform : Form.ofLead? lead = some ⟨0, 0x80, 0xBF⟩ := by
      rw [ofLead?_eq, if_pos (by omega)]
    exact front_of_form [] rest hform (following_zero ..) (by simpa [spelled] using ha)
  · have hform : Form.ofLead? lead = some ⟨1, 0x80, 0xBF⟩ := by
      rw [ofLead?_eq, if_neg (by omega), if_neg (by omega), if_pos (by omega)]
    refine front_of_form [b] rest hform ?_ ?_
    · show following (0 + 1) 0x80 0xBF (b :: rest) = 1
      rw [following_succ_cons _ (by simp; omega) (by simp; omega), following_zero]
    · simp [spelled]
      omega
  · have hform : ∃ low high, Form.ofLead? lead = some ⟨2, low, high⟩
        ∧ low.toNat ≤ b.toNat ∧ b.toNat ≤ high.toNat := by
      rw [ofLead?_eq, if_neg (by omega), if_neg (by omega), if_neg (by omega)]
      by_cases h1 : lead.toNat = 0xE0
      · exact ⟨_, _, if_pos h1, by simp; omega⟩
      · by_cases h2 : lead.toNat = 0xED
        · exact ⟨_, _, by rw [if_neg h1, if_pos h2], by simp; omega⟩
        · exact ⟨_, _, by rw [if_neg h1, if_neg h2, if_pos (by omega)], by simp; omega⟩
    obtain ⟨low, high, hform, hlow, hhigh⟩ := hform
    refine front_of_form [b, d] rest hform ?_ ?_
    · show following (1 + 1) low high (b :: d :: rest) = 2
      rw [following_succ_cons _ hlow hhigh,
        following_succ_cons _ (by simp; omega) (by simp; omega), following_zero]
    · simp [spelled]
      omega
  · have hform : ∃ low high, Form.ofLead? lead = some ⟨3, low, high⟩
        ∧ low.toNat ≤ b.toNat ∧ b.toNat ≤ high.toNat := by
      rw [ofLead?_eq, if_neg (by omega), if_neg (by omega), if_neg (by omega),
        if_neg (by omega), if_neg (by omega), if_neg (by omega)]
      by_cases h1 : lead.toNat = 0xF0
      · exact ⟨_, _, if_pos h1, by simp; omega⟩
      · by_cases h2 : lead.toNat < 0xF4
        · exact ⟨_, _, by rw [if_neg h1, if_pos h2], by simp; omega⟩
        · exact ⟨_, _, by rw [if_neg h1, if_neg h2, if_pos (by omega)], by simp; omega⟩
    obtain ⟨low, high, hform, hlow, hhigh⟩ := hform
    refine front_of_form [b, d, e] rest hform ?_ ?_
    · show following (2 + 1) low high (b :: d :: e :: rest) = 3
      rw [following_succ_cons _ hlow hhigh,
        following_succ_cons _ (by simp; omega) (by simp; omega),
        following_succ_cons _ (by simp; omega) (by simp; omega), following_zero]
    · simp [spelled]
      omega

/-- The pieces of well-formed text are its characters. -/
theorem pieces_encodeAll (cs : List Char) : pieces (encodeAll cs) = cs.map Piece.char := by
  induction cs with
  | nil =>
    rw [encodeAll_nil, pieces]
    rfl
  | cons c cs ih =>
    obtain ⟨lead, tail, he, -⟩ := encode_eq_cons c
    have hfront : Piece.front lead (tail ++ encodeAll cs) = (.char c, encodeAll cs) :=
      Piece.front_of_encode (by rw [he]; rfl)
    have hcons : encodeAll (c :: cs) = lead :: (tail ++ encodeAll cs) := by
      rw [encodeAll_cons, he]
      rfl
    rw [hcons, pieces, hfront, ih]
    rfl

/-- Nothing is replaced in well-formed text. -/
@[simp] theorem lossy_encodeAll (cs : List Char) : lossy (encodeAll cs) = cs := by
  rw [lossy, pieces_encodeAll, List.map_map]
  exact List.map_id cs

/-- A text is well-formed exactly when nothing in it is replaced. -/
theorem wellFormed_iff {bs : List UInt8} : WellFormed bs ↔ encodeAll (lossy bs) = bs := by
  constructor
  · rintro ⟨cs, rfl⟩
    rw [lossy_encodeAll]
  · intro h
    exact ⟨lossy bs, h.symm⟩

instance (bs : List UInt8) : Decidable (WellFormed bs) :=
  decidable_of_iff _ wellFormed_iff.symm

end Utf8

/-- The units of well-formed text are the code units of its characters. -/
theorem Utf16.length_encodeAll (cs : List Char) :
    Utf16.length (encodeAll cs) = (codeUnits cs).toUInt32 := by
  rw [Utf16.length, pieces_encodeAll, List.foldl_map, ← columns_eq]
  rfl

end DocNav
