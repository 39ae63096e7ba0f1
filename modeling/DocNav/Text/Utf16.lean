/-
  DocNav.Text.Utf16
  ─────────────────
  Lengths in UTF-16 code units.

  Editors count columns in UTF-16 code units: a character below U+10000 is
  one unit and any other is two.  A byte that belongs to no character
  counts as one unit.  Columns are 32-bit words, so the counters here are
  words too; `size` is the same count without a bound.
-/
import DocNav.Text.Utf8
import DocNav.Text.Piece

namespace DocNav.Utf16

open Utf8

/-! ## §1. Counting in words. -/

/-- The units of one character. -/
def charUnits (c : Char) : UInt32 :=
  if c.val < 0x10000 then 1 else 2

/-- The units of one piece. -/
def units : Piece → UInt32
  | .char c => charUnits c
  | .broken bytes => bytes.length.toUInt32

/-- The units of a text. -/
def length (bs : List UInt8) : UInt32 :=
  (pieces bs).foldl (fun n p => n + units p) 0

/-- The units of a list of characters. -/
def columns (cs : List Char) : UInt32 :=
  cs.foldl (fun n c => n + charUnits c) 0

/-! ## §2. Counting without a bound. -/

/-- The units of a text, taking a whole character wherever one stands and
a single byte where none does. -/
def size : List UInt8 → Nat
  | [] => 0
  | lead :: tail =>
      match _h : decode? (lead :: tail) with
      | some (c, rest) => (charUnits c).toNat + size rest
      | none => 1 + size tail
termination_by bs => bs.length
decreasing_by
  · exact length_lt_of_decode? _h
  · simp

end DocNav.Utf16
