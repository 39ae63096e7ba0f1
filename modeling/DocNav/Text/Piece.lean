/-
  DocNav.Text.Piece
  ─────────────────
  Any bytes at all, cut into pieces: characters and broken sequences.

  A broken sequence is as long as it can be while still being the start of
  some character, and one byte long if no character starts with it (a
  maximal subpart).  Which byte may follow which lead byte is the table of
  well-formed sequences, `Form.ofLead?`.  Reading with a replacement puts
  one U+FFFD for each broken sequence.
-/

namespace DocNav.Utf8

/-! ## §1. The table of well-formed sequences. -/

/-- What a lead byte asks for: how many bytes follow it, and the range of
the first of them.  The others are continuation bytes. -/
structure Form where
  /-- Number of bytes after the lead byte. -/
  trailing : Nat
  /-- Least value of the second byte. -/
  low : UInt8 := 0x80
  /-- Greatest value of the second byte. -/
  high : UInt8 := 0xBF
  deriving Repr, DecidableEq

/-- The row of the table for a lead byte. -/
def Form.ofLead? (lead : UInt8) : Option Form :=
  if lead < 0x80 then some { trailing := 0 }
  else if lead < 0xC2 then none
  else if lead < 0xE0 then some { trailing := 1 }
  else if lead = 0xE0 then some { trailing := 2, low := 0xA0 }
  else if lead = 0xED then some { trailing := 2, high := 0x9F }
  else if lead < 0xF0 then some { trailing := 2 }
  else if lead = 0xF0 then some { trailing := 3, low := 0x90 }
  else if lead < 0xF4 then some { trailing := 3 }
  else if lead = 0xF4 then some { trailing := 3, high := 0x8F }
  else none

/-- How many bytes at the front of `bs` are among the `n` that may follow:
the first within `low` and `high`, the others continuation bytes. -/
def following : (n : Nat) → (low high : UInt8) → (bs : List UInt8) → Nat
  | n + 1, low, high, b :: bs =>
      if low ≤ b && b ≤ high then following n 0x80 0xBF bs + 1 else 0
  | _, _, _, _ => 0

/-- The number spelled by a lead byte and the `bs` after it. -/
def spelled (lead : UInt8) (bs : List UInt8) : Nat :=
  bs.foldl (fun n b => n * 64 + b.toNat % 64) <|
    match bs.length with
    | 0 => lead.toNat
    | 1 => lead.toNat % 32
    | 2 => lead.toNat % 16
    | _ => lead.toNat % 8

/-! ## §2. Pieces. -/

/-- What stands at one place of a text. -/
inductive Piece where
  /-- A whole character. -/
  | char (c : Char)
  /-- A sequence that breaks off before it is a character. -/
  | broken (bytes : List UInt8)
  deriving Repr, DecidableEq

/-- The piece that begins with `lead`, and the bytes after it. -/
def Piece.front (lead : UInt8) (bs : List UInt8) : Piece × List UInt8 :=
  match Form.ofLead? lead with
  | none => (.broken [lead], bs)
  | some form =>
      let n := following form.trailing form.low form.high bs
      if n = form.trailing then
        (.char (Char.ofNat (spelled lead (bs.take n))), bs.drop n)
      else
        (.broken (lead :: bs.take n), bs.drop n)

/-- A piece takes nothing but its lead byte and bytes after it. -/
theorem Piece.length_front_le (lead : UInt8) (bs : List UInt8) :
    (Piece.front lead bs).2.length ≤ bs.length := by
  unfold Piece.front
  split
  · exact Nat.le_refl _
  · simp only
    split <;> simp

/-- The pieces of a text, in order. -/
def pieces : List UInt8 → List Piece
  | [] => []
  | lead :: bs => (Piece.front lead bs).1 :: pieces (Piece.front lead bs).2
termination_by bs => bs.length
decreasing_by
  have := Piece.length_front_le lead bs
  simp only [List.length_cons]
  omega

/-! ## §3. Reading with a replacement character. -/

/-- The character read for a piece: U+FFFD where a sequence is broken. -/
def Piece.toChar : Piece → Char
  | .char c => c
  | .broken _ => '\uFFFD'

/-- The characters of any text, broken sequences replaced. -/
def lossy (bs : List UInt8) : List Char :=
  (pieces bs).map Piece.toChar

/-- The string of any text, broken sequences replaced. -/
def lossyString (bs : List UInt8) : String :=
  String.ofList (lossy bs)

end DocNav.Utf8
