/-
  DocNav.Uri.Percent
  ──────────────────
  Percent-encoding: a byte written as `%` and two hexadecimal digits.

  A part of an address keeps the ASCII characters that are not reserved in
  it; any other character is written as the percent-encoding of its UTF-8
  bytes.  A `%` is never reserved, so what is encoded already stays as it
  is.
-/
import DocNav.Text.Hex
import DocNav.Text.Utf8

namespace DocNav.Uri

/-! ## §1. Reserved characters. -/

/-- Controls and everything outside ASCII: reserved everywhere. -/
def isControl (c : Char) : Bool :=
  c.toNat < 0x20 || 0x7F ≤ c.toNat

/-- Reserved in a fragment. -/
def inFragment (c : Char) : Bool :=
  isControl c || [' ', '"', '<', '>', '\x60'].contains c

/-- Reserved in a query. -/
def inQuery (c : Char) : Bool :=
  isControl c || [' ', '"', '#', '<', '>'].contains c

/-- Reserved in a query of the schemes of the web. -/
def inSpecialQuery (c : Char) : Bool :=
  inQuery c || c == '\''

/-- Reserved in a path. -/
def inPath (c : Char) : Bool :=
  inFragment c || ['#', '?', '\x7b', '\x7d'].contains c

/-- Reserved in a user name or password. -/
def inUserInfo (c : Char) : Bool :=
  inPath c || ['/', ':', ';', '=', '@', '[', '\\', ']', '^', '|'].contains c

/-! ## §2. Encoding. -/

/-- The three characters that stand for a byte. -/
def encodeByte (b : UInt8) : List Char :=
  ['%', Hex.upper (b.toNat / 16), Hex.upper (b.toNat % 16)]

/-- A text with its reserved characters encoded. -/
def encode (reserved : Char → Bool) (cs : List Char) : List Char :=
  cs.flatMap fun c => if reserved c then (Utf8.encode c).flatMap encodeByte else [c]

/-! ## §3. Decoding. -/

/-- The byte that two hexadecimal digits spell. -/
def byte? (high low : UInt8) : Option UInt8 :=
  (Hex.number? 2 [Char.ofNat high.toNat, Char.ofNat low.toNat]).map Nat.toUInt8

/-- A text with its percent-encoded bytes decoded; a `%` without two
digits after it stands for itself. -/
def decode : List UInt8 → List UInt8
  | [] => []
  | b :: bs =>
      match b == 0x25, bs with
      | true, high :: low :: rest =>
          match byte? high low with
          | some decoded => decoded :: decode rest
          | none => b :: decode (high :: low :: rest)
      | _, rest => b :: decode rest
termination_by bs => bs.length

end DocNav.Uri
