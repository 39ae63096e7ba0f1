/-
  DocNav.Text.Hex
  ───────────────
  Hexadecimal digits.
-/

namespace DocNav.Hex

/-- The value of a digit of either case. -/
def value? (c : Char) : Option Nat :=
  if '0' ≤ c && c ≤ '9' then some (c.toNat - 0x30)
  else if 'a' ≤ c && c ≤ 'f' then some (c.toNat - 0x57)
  else if 'A' ≤ c && c ≤ 'F' then some (c.toNat - 0x37)
  else none

/-- The lower-case digit of a number below 16. -/
def lower (n : Nat) : Char :=
  Char.ofNat (if n < 10 then 0x30 + n else 0x57 + n)

/-- The upper-case digit of a number below 16. -/
def upper (n : Nat) : Char :=
  Char.ofNat (if n < 10 then 0x30 + n else 0x37 + n)

/-- The number that exactly `size` digits at the front of a text spell. -/
def number? (size : Nat) (cs : List Char) : Option Nat :=
  if (cs.take size).length = size then
    (cs.take size).foldlM (fun n c => (value? c).map (n * 16 + ·)) 0
  else none

end DocNav.Hex
