/-
  DocNav.Domain.Direction
  ───────────────────────
  Names that are written from right to left.

  If any label of a name has a character of such a script, every label of
  the name has to have one direction: it begins with a letter of that
  direction, ends with a letter or number, and has no letters of the other
  direction.
-/
import DocNav.Text.Mark

namespace DocNav.Domain

/-! ## §1. Directions of characters. -/

/-- How a character takes part in the direction of a text. -/
inductive Direction where
  /-- A letter from left to right. -/
  | left
  /-- A letter from right to left. -/
  | right
  /-- A letter of Arabic or a script like it. -/
  | arabic
  /-- A number of Arabic. -/
  | arabicNumber
  /-- A European number. -/
  | number
  /-- A sign that goes with numbers. -/
  | numberSign
  /-- Anything without a direction. -/
  | neutral
  /-- A mark on the character before it. -/
  | mark
  deriving Repr, DecidableEq

/-- The direction that a tag of the table stands for. -/
def Direction.ofTag (tag : List Char) : Direction :=
  match String.ofList tag with
  | "R" => .right
  | "AL" => .arabic
  | "AN" => .arabicNumber
  | "EN" => .number
  | "ES" | "CS" | "ET" => .numberSign
  | _ => .neutral

/-- The characters that are neither marks nor letters from left to right. -/
def directionText : String :=
  "21-22:ON 23-25:ET 26-2a:ON 2b:ES 2c:CS 2d:ES 2e-2f:CS 30-39:EN 3a:CS 3b-60:ON 7b-a1:ON
   a2-a5:ET a6-ae:ON b0-b1:ET b6-d7:ON f7:ON 2b9-2ba:ON 2c2-2cf:ON 2d2-2ed:ON 2ef-2ff:ON 375:ON
   3f6:ON 58a-58e:ON 58f:ET 5be-5f4:R 606-607:ON 608:AL 609-60a:ET 60b:AL 60c:CS 60d:AL
   60e-60f:ON 61b-64a:AL 660-669:AN 66a:ET 66b-66c:AN 66d-6d5:AL 6de:ON 6e5-6e6:AL 6e9:ON
   6ee-6ef:AL 6f0-6f9:EN 6fa-7b1:AL 7c0-7f5:R 7f6-7f9:ON 7fa-85e:R 860-8c9:AL 9f2-9f3:ET 9fb:ET
   af1:ET bf3-bf8:ON bf9:ET bfa:ON c78-c7e:ON e3f:ET f3a-f3d:ON 1390-1399:ON 1400:ON
   169b-169c:ON 17db:ET 17f0-180a:ON 1940-1945:ON 19de-19ff:ON 2010-2027:ON 2030-2032:ET
   2035-2043:ON 2044:CS 2045-205e:ON 20a0-20c1:ET 2104-2129:ON 212e:ET 213a-214d:ON 218a-2211:ON
   2212:ES 2213:ET 2214-2335:ON 237b-2394:ON 2396-2426:ON 2440-26ab:ON 26ad-27ff:ON 2900-2b95:ON
   2b97-2bff:ON 2ce5-2cea:ON 2cf9-2cff:ON 2e00-3004:ON 3008-3020:ON 3030:ON 3037:ON 303d-303f:ON
   30a0:ON 30fb:ON 31c0-31e3:ON 4dc0-4dff:ON a490-a4c6:ON a60d-a60f:ON a673-a67f:ON a700-a721:ON
   a788:ON a828-a82b:ON a838-a839:ET a874-a877:ON ab6a-ab6b:ON fbb2-fbd2:AL fd3e-fd4f:ON
   fd90-fdce:AL fdcf-fe46:ON fe73:AL 10101:ON 10140-1018c:ON 10190-101a0:ON 102e1-102fb:EN
   10800-1091b:R 1091f:ON 10920-10b35:R 10b39-10b3f:ON 10b40-10cff:R 10d00-10d23:AL
   10d30-10d39:AN 10d40-10d8f:R 10e60-10e7e:AN 10e80-10eb1:R 10ec2-10ed8:AL 10f00-10f27:R
   10f30-10f59:AL 10f70-10ff6:R 11052-11065:ON 11660-1166c:ON 11fd5-11fdc:ON 11fdd-11fe0:ET
   11fe1-11ff1:ON 16fe2:ON 1d1e9-1d245:ON 1d300-1d356:ON 1e2ff:ET 1e800-1e95f:R 1ec71-1ed3d:AL
   1eef0-1f12f:ON 1f16d-1f16f:ON 1f1ad:ON 1f260-1f6d7:ON 1f6dc-1f776:ON 1f77b-1f8b1:ON
   1f900-1fa53:ON 1fa60-1fa88:ON 1fa90-1fabd:ON 1fabf-1fac5:ON 1face-1fadb:ON 1fae0-1fae8:ON
   1faf0-1fbca:ON"

/-- The directions of the characters, letters from left to right and marks
apart. -/
def directions : CharTable Direction :=
  CharTable.ofText Direction.ofTag directionText

/-- The direction of a character. -/
def Direction.of (c : Char) : Direction :=
  if Mark.isNonspacing c then .mark else (directions.find? c).getD .left

/-- The character makes a name one from right to left. -/
def Direction.isRightward : Direction → Bool
  | .right | .arabic | .arabicNumber => true
  | _ => false

/-- The character is a number. -/
def Direction.isNumber : Direction → Bool
  | .number | .arabicNumber => true
  | _ => false

/-! ## §2. Labels. -/

/-- The label makes a name one from right to left. -/
def hasRight (label : List Char) : Bool :=
  label.any fun c => (Direction.of c).isRightward

/-- The last character under any marks passes a test. -/
def endsWith (test : Direction → Bool) (ds : List Direction) : Bool :=
  match ds.reverse.dropWhile (· = Direction.mark) with
  | last :: _ => test last
  | [] => false

/-- The label has one direction. -/
def isDirected (label : List Char) : Bool :=
  let ds := label.map Direction.of
  match ds with
  | [] => true
  | .left :: _ =>
      !ds.any Direction.isRightward &&
        endsWith (fun d => d = Direction.left || d = Direction.number) ds
  | .right :: _ | .arabic :: _ =>
      !ds.any (· = Direction.left) &&
        !(ds.any (· = Direction.number) && ds.any (· = Direction.arabicNumber)) &&
        endsWith (fun d => d.isRightward || d.isNumber) ds
  | _ => false

/-- Every label has one direction, if any of them needs one. -/
def areDirected (labels : List (List Char)) : Bool :=
  !labels.any hasRight || labels.all isDirected

end DocNav.Domain
