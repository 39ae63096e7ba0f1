/-
  DocNav.Domain.Punycode
  ──────────────────────
  Labels outside ASCII in letters, digits and hyphens.

  The ASCII characters of a label come first.  After them stand, in the
  order of their code points, the places of the others: each as the number
  of steps from the one before, in digits to the base 36 whose weights
  adapt to the size of the steps so far.
-/

namespace DocNav.Domain.Punycode

/-! ## §1. Digits and weights. -/

/-- The digit of a number below 36. -/
def digit (n : Nat) : Char :=
  Char.ofNat (if n < 26 then 0x61 + n else 0x16 + n)

/-- The number of a digit of either case. -/
def digit? (c : Char) : Option Nat :=
  if c.isLower then some (c.toNat - 0x61)
  else if c.isUpper then some (c.toNat - 0x41)
  else if c.isDigit then some (c.toNat - 0x16)
  else none

/-- The least digit that does not end a number, at a place. -/
def threshold (place bias : Nat) : Nat :=
  if place ≤ bias then 1 else if bias + 26 ≤ place then 26 else place - bias

/-- The threshold is a digit other than zero. -/
theorem threshold_bounds (place bias : Nat) :
    0 < threshold place bias ∧ threshold place bias < 36 := by
  unfold threshold
  constructor <;> repeat' split
  all_goals omega

/-- How often a step can be divided before it is small, times 36, and what
is left of it. -/
def scale (places step : Nat) : Nat × Nat :=
  if 455 < step then scale (places + 36) (step / 35) else (places, step)
termination_by step
decreasing_by exact Nat.div_lt_self (by omega) (by omega)

/-- The bias after a step, by the number of characters there are now. -/
def adapt (step count : Nat) (first : Bool) : Nat :=
  let step := if first then step / 700 else step / 2
  let (places, rest) := scale 0 (step + step / count)
  places + 36 * rest / (rest + 38)

/-- The bias before the first step. -/
def initialBias : Nat := 72

/-! ## §2. Encoding. -/

/-- A number in digits. -/
def digits (bias place n : Nat) : List Char :=
  let t := threshold place bias
  if n < t then [digit n]
  else digit (t + (n - t) % (36 - t)) :: digits bias (place + 36) ((n - t) / (36 - t))
termination_by n
decreasing_by
  have hpos := (threshold_bounds place bias).1
  have hdiv := Nat.div_le_self (n - threshold place bias) (36 - threshold place bias)
  omega

/-- What has been written. -/
structure Writing where
  text : List Char
  /-- Steps since the last character that was placed. -/
  step : Nat
  bias : Nat
  /-- How many characters have been placed. -/
  placed : Nat

/-- Pass a character of the label while those equal to `m` are placed; the
label has `basic` characters in ASCII. -/
def Writing.pass (basic m : Nat) (w : Writing) (c : Char) : Writing :=
  if c.toNat < m then { w with step := w.step + 1 }
  else if c.toNat = m then
    { text := w.text ++ digits w.bias 36 w.step
      step := 0
      bias := adapt w.step (w.placed + 1) (w.placed == basic)
      placed := w.placed + 1 }
  else w

/-- Place the characters equal to `m`, after those below `n`. -/
def Writing.place (label : List Char) (basic : Nat) (state : Writing × Nat) (m : Nat) :
    Writing × Nat :=
  let (w, n) := state
  let ready := { w with step := w.step + (m - n) * (w.placed + 1) }
  let done := label.foldl (Writing.pass basic m) ready
  ({ done with step := done.step + 1 }, m + 1)

/-- The written form of a label. -/
def encode (label : List Char) : List Char :=
  let basic := label.filter (·.toNat < 0x80)
  let others := ((label.map Char.toNat).filter (0x80 ≤ ·)).eraseDups.mergeSort
  let start : Writing :=
    { text := [], step := 0, bias := initialBias, placed := basic.length }
  let (w, _) := others.foldl (Writing.place label basic.length) (start, 0x80)
  (if basic.isEmpty then [] else basic ++ ['-']) ++ w.text

/-! ## §3. Decoding. -/

/-- What has been read. -/
structure Reading where
  label : List Char
  /-- The code point that is being placed. -/
  point : Nat
  /-- The place where the last character was put, one past it. -/
  start : Nat
  bias : Nat
  /-- The place so far, and the weight and place of the next digit. -/
  index : Nat
  weight : Nat
  digitPlace : Nat

/-- Read one digit; the last digit of a number puts a character in its
place. -/
def Reading.read (r : Reading) (c : Char) : Option Reading := do
  let d ← digit? c
  let index := r.index + d * r.weight
  let t := threshold r.digitPlace r.bias
  if t ≤ d then
    return { r with index, weight := r.weight * (36 - t), digitPlace := r.digitPlace + 36 }
  let count := r.label.length + 1
  let point := r.point + index / count
  guard point.isValidChar
  let place := index % count
  return {
    label := r.label.take place ++ Char.ofNat point :: r.label.drop place
    point
    start := place + 1
    bias := adapt (index - r.start) count (r.start == 0)
    index := place + 1
    weight := 1
    digitPlace := 36 }

/-- The label of a written form: the characters before the last hyphen, and
what the digits after it put between them. -/
def decode? (text : List Char) : Option (List Char) := do
  let tail := text.reverse.takeWhile (· != '-')
  let basic := text.take (text.length - tail.length - 1)
  guard (basic.all (·.toNat < 0x80))
  let r ← tail.reverse.foldlM Reading.read
    { label := basic, point := 0x80, start := 0, bias := initialBias, index := 0,
      weight := 1, digitPlace := 36 }
  guard (r.weight = 1 ∧ r.digitPlace = 36)
  return r.label

end DocNav.Domain.Punycode
