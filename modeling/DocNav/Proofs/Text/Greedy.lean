/-
  DocNav.Proofs.Text.Greedy
  ─────────────────────────
  The units of any bytes are counted greedily, and part by part.

  A greedy count goes from byte to byte: where the bytes of a character
  stand it takes all of them, and where none do it takes one byte and
  counts it as one (`Greedy`).  It knows nothing of broken sequences.
  Counting by pieces comes to the same number whatever the bytes are
  (`sum_pieceSize`).  Between two texts the count adds up if the first is
  well-formed, or if the second begins with no continuation byte: then no
  character stands over the place where they meet (`size_append`).
-/
import DocNav.Proofs.Text.Lossy

namespace DocNav.Utf16

open Utf8

/-! ## §1. The greedy count. -/

/-- A count that takes a whole character wherever the bytes of one stand,
and a single byte where none do. -/
structure Greedy (count : List UInt8 → Nat) : Prop where
  nil : count [] = 0
  char : ∀ c rest, count (encode c ++ rest) = (if c.toNat < 0x10000 then 1 else 2) + count rest
  byte : ∀ b rest, (∀ c after, b :: rest ≠ encode c ++ after) → count (b :: rest) = 1 + count rest

theorem greedy_size : Greedy size where
  nil := size_nil
  char := by
    intro c rest
    rw [size_encode_append, toNat_charUnits]
  byte := by
    intro b rest hnone
    apply size_cons_of_decode?_eq_none
    -- A character that could be read here would have its bytes here.
    rw [Option.eq_none_iff_forall_ne_some]
    rintro ⟨c, after⟩ hread
    exact hnone c after (decode?_eq_some_iff.mp hread)

/-! ## §2. Two texts. -/

/-- No character stands over the place where the two texts meet: the first
is well-formed, or the second begins with no continuation byte. -/
def Apart (front back : List UInt8) : Prop :=
  WellFormed front ∨ ∀ b ∈ back.head?, isContinuation b = false

instance (front back : List UInt8) : Decidable (Apart front back) :=
  inferInstanceAs (Decidable (_ ∨ _))

theorem size_append {front back : List UInt8} (h : Apart front back) :
    size (front ++ back) = size front + size back := by
  obtain ⟨cs, rfl⟩ | hback := h
  · rw [size_encodeAll_append, size_encodeAll]
  · -- The pieces of the two are the pieces of the one and then those of the other.
    rw [← sum_pieceSize, pieces_append front hback, List.map_append, List.sum_append,
      sum_pieceSize, sum_pieceSize]

theorem length_append {front back : List UInt8} (h : Apart front back) :
    length (front ++ back) = length front + length back := by
  rw [length_eq_size, size_append h, length_eq_size, length_eq_size]
  exact UInt32.ofNat_add ..

/-- **The count is greedy**: the units of the pieces of any bytes, summed up,
are what the greedy count makes of them; the counter in words is that number
brought down to a word, and the number itself as long as the bytes are fewer
than there are words.  Over two texts that are apart both add up. -/
theorem length_greedy :
    Greedy size
    ∧ (∀ bs, ((pieces bs).map pieceSize).sum = size bs ∧ length bs = (size bs).toUInt32
      ∧ (bs.length < 2 ^ 32 → (length bs).toNat = size bs))
    ∧ ∀ front back, Apart front back →
        size (front ++ back) = size front + size back
        ∧ length (front ++ back) = length front + length back := by
  refine ⟨greedy_size, ?_, ?_⟩
  · intro bs
    exact ⟨sum_pieceSize bs, length_eq_size bs, toNat_length⟩
  · intro front back h
    exact ⟨size_append h, length_append h⟩

/-- Two of the three bytes of a character and then a character of four, which
count two and two; with the byte that they lack the two bytes count one, and
that byte counts by itself after a whole character. -/
theorem length_greedy_sample :
    length ([0xE2, 0x82] ++ [0xF0, 0x9F, 0x98, 0x80]) = 2 + 2
    ∧ (¬ Apart [0xE2, 0x82] [0xAC] ∧ length ([0xE2, 0x82] ++ [0xAC]) = 1)
    ∧ size (Utf8.ofString "é" ++ [0xAC]) = 1 + 1 := by
  obtain ⟨-, -, hparts⟩ := length_greedy
  have hbroken : length [0xE2, 0x82] = 2 := by decide +kernel
  have hpair : length [0xF0, 0x9F, 0x98, 0x80] = 2 := by decide +kernel
  have hletter : size (Utf8.ofString "é") = 1 := by decide +kernel
  have hbyte : size [0xAC] = 1 := by decide +kernel
  refine ⟨?_, by decide +kernel, ?_⟩
  · rw [(hparts [0xE2, 0x82] [0xF0, 0x9F, 0x98, 0x80] (by decide +kernel)).2, hbroken, hpair]
  · rw [(hparts (Utf8.ofString "é") [0xAC] (by decide +kernel)).1, hletter, hbyte]

end DocNav.Utf16
