/-
  DocNav.Json.Real
  ────────────────
  Numbers with a fraction or an exponent: their value in 53 bits, and the
  text with the fewest digits that reads back as the same value.

  A text is read in two steps, each of which rounds to the nearest value:
  first the digits that fit in 64 bits, then the product with a power of
  ten.
-/

namespace DocNav

/-- A number `bits · 2 ^ scale` with a sign; `bits` has at most 53 bits. -/
structure Real where
  negative : Bool
  bits : Nat
  scale : Int
  deriving Repr, DecidableEq, BEq

namespace Real

/-! ## §1. Rounding. -/

/-- The smallest scale. -/
def minScale : Int := -1074

/-- The greatest scale. -/
def maxScale : Int := 971

/-- The quotient rounded to the nearest number, to the even one of two. -/
def roundDiv (n d : Nat) : Nat :=
  let q := n / d
  let r := n % d
  if 2 * r < d then q else if d < 2 * r then q + 1 else q + q % 2

/-- A fraction divided by a power of two. -/
def scaled (n d : Nat) (scale : Int) : Nat × Nat :=
  if 0 ≤ scale then (n, d * Nat.pow 2 scale.toNat) else (n * Nat.pow 2 (-scale).toNat, d)

/-- The number nearest to a fraction, without its sign; none if the
fraction is too great. -/
def nearest? (n d : Nat) : Option (Nat × Int) :=
  if n = 0 then some (0, minScale)
  else
    let guess : Int := (Nat.log2 n : Int) - (Nat.log2 d : Int) - 52
    let fits (s : Int) : Bool :=
      let (a, b) := scaled n d s
      a / b < 9007199254740992
    let scale := max minScale (if fits (guess - 1) then guess - 1 else guess)
    let (a, b) := scaled n d scale
    let bits := roundDiv a b
    let (bits, scale) :=
      if bits = 9007199254740992 then (4503599627370496, scale + 1) else (bits, scale)
    if scale ≤ maxScale then some (bits, scale) else none

/-- The fraction that bits and a scale spell. -/
def fraction (bits : Nat) (scale : Int) : Nat × Nat :=
  if 0 ≤ scale then (bits * Nat.pow 2 scale.toNat, 1) else (bits, Nat.pow 2 (-scale).toNat)

/-! ## §2. Reading. -/

/-- The greatest power of ten that is a number. -/
def maxPower : Nat := 308

/-- A number times or over a power of ten, rounded; the power is rounded
first. -/
def timesTen? (x : Nat × Int) (up : Bool) (power : Nat) : Option (Nat × Int) := do
  let (pb, ps) ← nearest? (Nat.pow 10 power) 1
  let (n, d) := fraction x.1 x.2
  let (pn, pd) := fraction pb ps
  if up then nearest? (n * pn) (d * pd) else nearest? (n * pd) (d * pn)

/-- A number times a power of ten that may be very small: it is divided by
the greatest power until what is left of the power fits. -/
def lower? : Nat → Nat × Int → Nat → Option (Nat × Int)
  | 0, _, _ => some (0, minScale)
  | fuel + 1, x, power =>
      if power ≤ maxPower then timesTen? x false power
      else if x.1 = 0 then some x
      else do lower? fuel (← timesTen? x false maxPower) (power - maxPower)

/-- The number of some digits and a power of ten; none if it is too great.
Four divisions by the greatest power leave nothing. -/
def ofParts? (negative : Bool) (digits : Nat) (power : Int) : Option Real := do
  let x ← nearest? digits 1
  let y ← if power < 0 then lower? 5 x (-power).toNat
    else if maxPower < power.toNat then (if x.1 = 0 then some x else none)
    else timesTen? x true power.toNat
  return ⟨negative, y.1, y.2⟩

/-- Digits that fit in 64 bits, and how many of the text's digits they
are. -/
def take64 (start : Nat) (digits : List Char) : Nat × Nat :=
  let step (state : Nat × Nat × Bool) (c : Char) : Nat × Nat × Bool :=
    let (n, count, full) := state
    let next := n * 10 + (c.toNat - 0x30)
    if full || 18446744073709551615 < next then (n, count, true) else (next, count + 1, false)
  let (n, count, _) := digits.foldl step (start, 0, false)
  (n, count)

/-- The number that the parts of a text spell: the digits before and after
the point, and the exponent. -/
def ofText? (negative : Bool) (whole decimals : List Char) (exponent : Int) : Option Real :=
  let (n, used) := take64 0 whole
  let (m, more) := take64 n decimals
  ofParts? negative m ((whole.length : Int) - used - more + exponent)

/-! ## §3. Writing. -/

/-- The decimal number with digits `d` and the power `p` of ten that is
nearest to `n / u`, if `d` or `d + 1` lies between `low / u` and
`high / u`, with the ends if they count. -/
def onGrid? (n low high u : Nat) (ends : Bool) (p : Int) : Option Nat :=
  let (up, down) := if 0 ≤ p then (1, Nat.pow 10 p.toNat) else (Nat.pow 10 (-p).toNat, 1)
  let unit := u * down
  let d := n * up / unit
  let between (k : Nat) : Bool :=
    if ends then low * up ≤ k * unit && k * unit ≤ high * up
    else low * up < k * unit && k * unit < high * up
  let distance (k : Nat) : Nat := (n * up - k * unit) + (k * unit - n * up)
  match between d && d ≠ 0, between (d + 1) with
  | true, true => some (if distance (d + 1) < distance d then d + 1 else d)
  | true, false => some d
  | false, true => some (d + 1)
  | false, false => none

/-- The first hit on grids that get finer, and its power of ten. -/
def search (hit : Int → Option Nat) : Nat → Int → Nat × Int
  | 0, p => (0, p)
  | fuel + 1, p =>
      match hit p with
      | some d => (d, p)
      | none => search hit fuel (p - 1)

/-- The fewest digits that read back as a number other than zero, and the
power of ten that goes with them.  Seventeen digits are always enough. -/
def shortest (bits : Nat) (scale : Int) : Nat × Int :=
  let narrow := bits = 4503599627370496 ∧ minScale < scale
  let (_, u) := fraction 1 (scale - 2)
  let times := (fraction 1 (scale - 2)).1
  let n := 4 * bits * times
  let low := (4 * bits - if narrow then 1 else 2) * times
  let high := (4 * bits + 2) * times
  let top : Int := (scale + Nat.log2 bits + 1) * 30103 / 100000 + 1
  search (onGrid? n low high u (bits % 2 = 0)) 25 top

/-- The text of digits and a power of ten: with a point where that takes
few zeros, else with an exponent. -/
def positional (digits : List Char) (power : Int) : List Char :=
  let size := digits.length
  let point : Int := size + power
  if 0 ≤ power && point ≤ 16 then digits ++ List.replicate power.toNat '0' ++ ['.', '0']
  else if 0 < point && point ≤ 16 then
    digits.take point.toNat ++ '.' :: digits.drop point.toNat
  else if -5 < point && point ≤ 0 then
    ['0', '.'] ++ List.replicate (-point).toNat '0' ++ digits
  else
    let mantissa := if size = 1 then digits else digits.take 1 ++ '.' :: digits.drop 1
    mantissa ++ 'e' :: (toString (point - 1)).toList

/-- The text of a number. -/
def text (x : Real) : String :=
  let sign := if x.negative then "-" else ""
  if x.bits = 0 then sign ++ "0.0"
  else
    let (digits, power) := shortest x.bits x.scale
    sign ++ String.ofList (positional (toString digits).toList power)

end Real

end DocNav
