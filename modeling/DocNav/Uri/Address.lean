/-
  DocNav.Uri.Address
  ──────────────────
  Addresses of the internet in numbers.

  An address of four bytes is written as numbers with dots between them,
  of which the last may fill several bytes.  An address of eight groups is
  written with colons; one run of zeros may be left out, and the last two
  groups may be written as four bytes.
-/
import DocNav.Text.Hex
import DocNav.Text.Lines

namespace DocNav.Uri

/-! ## §1. Four bytes. -/

/-- The value of a number as hosts write it: `0x` before hexadecimal and
`0` before octal digits. -/
def hostNumber? (cs : List Char) : Option Nat :=
  let digits (base : Nat) (ds : List Char) : Option Nat :=
    ds.foldlM (fun n d => do
      let v ← Hex.value? d
      if v < base then some (n * base + v) else none) 0
  match cs with
  | [] => none
  | '0' :: x :: ds =>
      if x.toLower == 'x' then digits 16 ds else digits 8 (x :: ds)
  | ds => digits 10 ds

/-- The parts of a name between its dots, without the empty one after a dot
at the end. -/
def dotParts (name : List Char) : List (List Char) :=
  let parts := Text.splitOn '.' name
  if 1 < parts.length && parts.getLast? == some [] then parts.dropLast else parts

/-- The name ends in a number, so that it can only be an address. -/
def endsInNumber (name : List Char) : Bool :=
  match (dotParts name).getLast? with
  | some last => (!last.isEmpty && last.all Char.isDigit) || (hostNumber? last).isSome
  | none => false

/-- The address that numbers spell: all but the last are bytes, and the
last fills the bytes that are left. -/
def ofNumbers? (numbers : List Nat) : Option Nat :=
  match numbers.reverse with
  | [] => none
  | last :: before =>
      let left := Nat.pow 256 (4 - before.length)
      if before.length ≤ 3 && before.all (· < 256) && last < left then
        some (before.reverse.foldl (fun acc p => acc * 256 + p) 0 * left + last)
      else none

/-- The address of four bytes that a name spells. -/
def bytes4? (name : List Char) : Option Nat :=
  ((dotParts name).mapM hostNumber?).bind ofNumbers?

/-- The written form of an address of four bytes. -/
def bytes4Text (n : Nat) : String :=
  ".".intercalate ([n / 16777216, n / 65536 % 256, n / 256 % 256, n % 256].map toString)

/-! ## §2. Eight groups. -/

/-- A group: one to four hexadecimal digits. -/
def group? (cs : List Char) : Option Nat :=
  if cs.length ≤ 4 && !cs.isEmpty then Hex.number? cs.length cs else none

/-- A byte in decimal digits, without a zero before it. -/
def byteNumber? (cs : List Char) : Option Nat :=
  let n := cs.foldl (fun n d => n * 10 + (d.toNat - 0x30)) 0
  if !cs.isEmpty && cs.length ≤ 3 && cs.all Char.isDigit && n < 256 &&
      (cs.length == 1 || cs.head? != some '0') then some n
  else none

/-- Two groups that are written as four bytes. -/
def quad? (cs : List Char) : Option (List Nat) := do
  match ← (Text.splitOn '.' cs).mapM byteNumber? with
  | [a, b, c, d] => return [a * 256 + b, c * 256 + d]
  | _ => none

/-- Groups with colons between them; the last may be written as bytes if
the address ends there. -/
def groups? (final : Bool) (cs : List Char) : Option (List Nat) := do
  let parts := Text.splitOn ':' cs
  let last := parts.getLast?.getD []
  let before ← parts.dropLast.mapM group?
  let ending ← ((group? last).map ([·])).or (if final then quad? last else none)
  return before ++ ending

/-- A text cut at its first two colons in a row. -/
def cutColons : List Char → Option (List Char × List Char)
  | ':' :: ':' :: rest => some ([], rest)
  | c :: rest => (cutColons rest).map fun (before, after) => (c :: before, after)
  | [] => none

/-- The eight groups that a text spells. -/
def groups8? (cs : List Char) : Option (List Nat) := do
  let half (final : Bool) (side : List Char) : Option (List Nat) :=
    if side.isEmpty then some [] else groups? final side
  match cutColons cs with
  | none =>
      let groups ← groups? true cs
      if groups.length = 8 then some groups else none
  | some (before, after) =>
      let left ← half false before
      let right ← half true after
      if left.length + right.length < 8 then
        some (left ++ List.replicate (8 - left.length - right.length) 0 ++ right)
      else none

/-- The longest run of zeros, the first of several: where it starts and how
long it is. -/
def zeroRun (groups : List Nat) : Nat × Nat :=
  (List.range groups.length).foldl (fun best i =>
    let size := ((groups.drop i).takeWhile (· = 0)).length
    if best.2 < size then (i, size) else best) (0, 0)

/-- The written form of eight groups: the longest run of two or more zeros
is left out. -/
def groups8Text (groups : List Nat) : String :=
  let colons (gs : List Nat) : String :=
    ":".intercalate (gs.map fun g => String.ofList (Nat.toDigits 16 g))
  let (start, size) := zeroRun groups
  if size < 2 then colons groups
  else colons (groups.take start) ++ "::" ++ colons (groups.drop (start + size))

end DocNav.Uri
