/-
  DocNav.Text.Utf8
  ────────────────
  UTF-8 by value: one character to its bytes and back.

  A sequence of bytes is read by the number its payload bits spell.  It is
  a character exactly when that number is a Unicode scalar value that
  needs that many bytes, so overlong forms, surrogates and numbers past
  U+10FFFF have no reading.  The table of allowed byte ranges, which finds
  where a broken sequence ends, is in `DocNav.Text.Piece`.
-/

namespace DocNav.Utf8

/-! ## §1. Writing. -/

/-- The bytes of one character. -/
def encode (c : Char) : List UInt8 :=
  let n := c.toNat
  if n < 0x80 then [n.toUInt8]
  else if n < 0x800 then
    [(0xC0 + n / 64).toUInt8, (0x80 + n % 64).toUInt8]
  else if n < 0x10000 then
    [(0xE0 + n / 4096).toUInt8, (0x80 + n / 64 % 64).toUInt8, (0x80 + n % 64).toUInt8]
  else
    [(0xF0 + n / 262144).toUInt8, (0x80 + n / 4096 % 64).toUInt8,
     (0x80 + n / 64 % 64).toUInt8, (0x80 + n % 64).toUInt8]

/-- The bytes of a list of characters. -/
def encodeAll (cs : List Char) : List UInt8 :=
  cs.flatMap encode

@[simp] theorem encodeAll_nil : encodeAll [] = [] := rfl

@[simp] theorem encodeAll_cons (c : Char) (cs : List Char) :
    encodeAll (c :: cs) = encode c ++ encodeAll cs := rfl

@[simp] theorem encodeAll_append (cs ds : List Char) :
    encodeAll (cs ++ ds) = encodeAll cs ++ encodeAll ds := by
  simp [encodeAll]

/-- The bytes of a string. -/
def ofString (s : String) : List UInt8 :=
  encodeAll s.toList

/-! ## §2. Reading one sequence. -/

/-- A byte that can only stand inside a sequence. -/
def isContinuation (b : UInt8) : Bool :=
  0x80 ≤ b && b ≤ 0xBF

/-- The number of bytes in the sequence that `lead` begins, or 0 if no
sequence begins with it. -/
def width (lead : UInt8) : Nat :=
  if lead < 0x80 then 1
  else if lead < 0xC2 then 0
  else if lead < 0xE0 then 2
  else if lead < 0xF0 then 3
  else if lead < 0xF5 then 4
  else 0

/-- The payload of a continuation byte. -/
def payload (b : UInt8) : Nat :=
  b.toNat % 64

/-- The number spelled by a whole sequence whose marker bits are in order. -/
def value? : List UInt8 → Option Nat
  | [a] => if a < 0x80 then some a.toNat else none
  | [a, b] =>
      if 0xC0 ≤ a && a < 0xE0 && isContinuation b then
        some (a.toNat % 32 * 64 + payload b)
      else none
  | [a, b, c] =>
      if 0xE0 ≤ a && a < 0xF0 && isContinuation b && isContinuation c then
        some ((a.toNat % 16 * 64 + payload b) * 64 + payload c)
      else none
  | [a, b, c, d] =>
      if 0xF0 ≤ a && a < 0xF8 && isContinuation b && isContinuation c && isContinuation d then
        some (((a.toNat % 8 * 64 + payload b) * 64 + payload c) * 64 + payload d)
      else none
  | _ => none

/-- The least number that needs a sequence of the given length. -/
def least : Nat → Nat
  | 2 => 0x80
  | 3 => 0x800
  | 4 => 0x10000
  | _ => 0

/-- The character that a whole sequence spells. -/
def scalar? (seq : List UInt8) : Option Char :=
  match value? seq with
  | some n => if least seq.length ≤ n ∧ n.isValidChar then some (Char.ofNat n) else none
  | none => none

/-! ## §3. Reading a text. -/

/-- The character at the front of `bs` and the bytes after it, if a
well-formed sequence stands there. -/
def decode? (bs : List UInt8) : Option (Char × List UInt8) :=
  match bs with
  | [] => none
  | lead :: _ => (scalar? (bs.take (width lead))).map (·, bs.drop (width lead))

/-- Reading a character uses up at least one byte. -/
theorem length_lt_of_decode? {bs rest : List UInt8} {c : Char}
    (h : decode? bs = some (c, rest)) : rest.length < bs.length := by
  cases bs with
  | nil => simp [decode?] at h
  | cons lead tail =>
    simp only [decode?, Option.map_eq_some_iff, Prod.mk.injEq] at h
    obtain ⟨_, hc, _, rfl⟩ := h
    have hw : width lead ≠ 0 := by
      intro h0
      simp [h0, scalar?, value?] at hc
    simp only [List.length_drop, List.length_cons]
    omega

/-- The characters of a text, if all of it is well-formed. -/
def decodeAll? (bs : List UInt8) : Option (List Char) :=
  if bs.isEmpty then some []
  else match _h : decode? bs with
    | none => none
    | some (c, rest) => (decodeAll? rest).map (c :: ·)
termination_by bs.length
decreasing_by exact length_lt_of_decode? _h

/-- The string that a text spells, if all of it is well-formed. -/
def toString? (bs : List UInt8) : Option String :=
  (decodeAll? bs).map String.ofList

/-- A text is well-formed when it is the encoding of some characters. -/
def WellFormed (bs : List UInt8) : Prop :=
  ∃ cs : List Char, bs = encodeAll cs

end DocNav.Utf8
