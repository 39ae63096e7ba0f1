/-
  DocNav.Toml.Scalar
  ──────────────────
  Readers for the plain values of TOML: strings, numbers, dates.
-/
import DocNav.Text.Hex
import DocNav.Text.Reader
import DocNav.Toml.Value

namespace DocNav.Toml.Grammar

open Reader

/-! ## §1. Characters. -/

/-- Space or tab. -/
def isBlank (c : Char) : Bool :=
  c == ' ' || c == '\t'

/-- Any number of blanks. -/
def blanks : Reader Unit := do
  let _ ← run isBlank

/-- A character that strings and comments may hold as it is. -/
def isPlain (c : Char) : Bool :=
  c == '\t' || (0x20 ≤ c.toNat && c.toNat != 0x7F)

/-- The end of a line: a newline, with or without a carriage return. -/
def newline : Reader Unit := fun cs =>
  match cs with
  | '\n' :: rest => some ((), rest)
  | '\r' :: '\n' :: rest => some ((), rest)
  | _ => none

/-! ## §2. Strings. -/

/-- The character with the number that so many hexadecimal digits spell. -/
def scalar? (size : Nat) (cs : List Char) : Option Char := do
  let n ← Hex.number? size cs
  if n.isValidChar then some (Char.ofNat n) else none

/-- The character that stands after a backslash, and how many characters
spell it. -/
def escape? : List Char → Option (Char × Nat)
  | 'b' :: _ => some ('\x08', 1)
  | 't' :: _ => some ('\t', 1)
  | 'n' :: _ => some ('\n', 1)
  | 'f' :: _ => some ('\x0c', 1)
  | 'r' :: _ => some ('\r', 1)
  | '"' :: _ => some ('"', 1)
  | '\\' :: _ => some ('\\', 1)
  | 'u' :: rest => (scalar? 4 rest).map (·, 5)
  | 'U' :: rest => (scalar? 8 rest).map (·, 9)
  | _ => none

/-- The rest of a string on one line, after its opening quote.  Only
strings in double quotes have escapes. -/
def lineString (quote : Char) : Reader (List Char) := fun cs =>
  match cs with
  | [] => none
  | c :: rest =>
      if c == quote then some ([], rest)
      else if c == '\\' && quote == '"' then
        match escape? rest with
        | none => none
        | some (e, n) => (lineString quote (rest.drop n)).map fun (s, r) => (e :: s, r)
      else if isPlain c then (lineString quote rest).map fun (s, r) => (c :: s, r)
      else none
termination_by cs => cs.length
decreasing_by all_goals simp only [List.length_cons, List.length_drop]; omega

/-- How many characters after a backslash it takes to get past the end of
the line and the blank lines and blanks after it; 0 if something else
stands on the line. -/
def foldedLines (cs : List Char) : Nat :=
  let rest := cs.dropWhile isBlank
  match newline rest with
  | none => 0
  | some _ => cs.length - (skip rest).length
where
  /-- The text after all blanks and line ends. -/
  skip : List Char → List Char
    | '\r' :: '\n' :: rest => skip rest
    | c :: rest => if isBlank c || c == '\n' then skip rest else c :: rest
    | [] => []

/-- The rest of a string of several lines, after its opening quotes: a run
of three quotes closes it, and up to two more before them belong to it. -/
def blockString (quote : Char) : Reader (List Char) := fun cs =>
  match cs with
  | [] => none
  | c :: rest =>
      if c == quote then
        let n := (rest.takeWhile (· == quote)).length + 1
        if 3 ≤ n then
          some (List.replicate (min (n - 3) 2) quote, (c :: rest).drop (min n 5))
        else
          (blockString quote (rest.drop (n - 1))).map fun (s, r) =>
            (List.replicate n quote ++ s, r)
      else if c == '\\' && quote == '"' then
        match foldedLines rest with
        | 0 =>
            match escape? rest with
            | none => none
            | some (e, n) => (blockString quote (rest.drop n)).map fun (s, r) => (e :: s, r)
        | n + 1 => blockString quote (rest.drop (n + 1))
      else if c == '\n' then (blockString quote rest).map fun (s, r) => ('\n' :: s, r)
      else if c == '\r' then
        if rest.head? == some '\n' then blockString quote rest else none
      else if isPlain c then (blockString quote rest).map fun (s, r) => (c :: s, r)
      else none
termination_by cs => cs.length
decreasing_by all_goals simp only [List.length_cons, List.length_drop]; omega

/-- A string in the given quotes on one line. -/
def quoted (quote : Char) : Reader String := do
  let _ ← one (· == quote)
  return String.ofList (← lineString quote)

/-- A string in the given quotes, on one line or on several.  A line end
right after three quotes does not belong to it. -/
def string (quote : Char) : Reader String := fun cs =>
  let three := String.ofList [quote, quote, quote]
  match literal three cs with
  | some (_, rest) =>
      (do
        let _ ← maybe newline
        return String.ofList (← blockString quote)) rest
  | none => quoted quote cs

/-! ## §3. Numbers. -/

/-- Digits of a class, with single underscores between them. -/
def grouped (isDigit : Char → Bool) : Reader (List Char) := do
  let all ← run fun c => isDigit c || c == '_'
  let wellPlaced : List Char → Bool
    | [] => false
    | c :: cs => c != '_' && ((c :: cs).zip cs).all (fun (a, b) => a != '_' || b != '_') &&
        (c :: cs).getLast? != some '_'
  guard (wellPlaced all)
  return all.filter (· != '_')

/-- The value of digits to a base. -/
def valueOf (base : Nat) (digits : List Char) : Nat :=
  digits.foldl (fun n d => n * base + (Hex.value? d).getD 0) 0

/-- A sign; true for a minus. -/
def sign : Reader Bool := fun cs =>
  match cs with
  | '-' :: rest => some (true, rest)
  | '+' :: rest => some (false, rest)
  | _ => some (false, cs)

/-- A decimal number without a leading zero, with its sign. -/
def decimal : Reader (Bool × List Char) := do
  let negative ← sign
  match ← peek with
  | some '0' =>
      let _ ← one (· == '0')
      return (negative, ['0'])
  | _ => return (negative, ← grouped Char.isDigit)

/-- Whole numbers lie below 2 to the 63rd, and not below its negative. -/
def wholeBound : Nat := 0x8000000000000000

/-- Digits to a base after their mark. -/
def based (mark : String) (base : Nat) : Reader Int := do
  literal mark
  let digits ← grouped fun c => match Hex.value? c with
    | some v => v < base
    | none => false
  let n := valueOf base digits
  guard (n < wholeBound)
  return n

/-- A whole number of 64 bits. -/
def integer : Reader Int :=
  based "0x" 16 <|> based "0o" 8 <|> based "0b" 2 <|> do
    let (negative, digits) ← decimal
    let n : Int := valueOf 10 digits
    let n := if negative then -n else n
    guard (-(wholeBound : Int) ≤ n ∧ n < wholeBound)
    return n

/-- The number is too large for 64 bits of floating point: it lies at or
above the middle between the largest such number and the next power of 2. -/
def overflows (digits : List Char) (exponent : Int) : Bool :=
  let m := valueOf 10 digits
  let top : Int := (Nat.toDigits 10 m).length + exponent
  let bound := Nat.pow 2 1024 - Nat.pow 2 970
  if m = 0 || top < 308 then false
  else if 310 < top then true
  else if 0 ≤ exponent then bound ≤ m * Nat.pow 10 exponent.toNat
  else bound * Nat.pow 10 exponent.natAbs ≤ m

/-- The exponent of a number. -/
def exponent : Reader Int := do
  let _ ← one fun c => c == 'e' || c == 'E'
  let negative ← sign
  let n : Int := valueOf 10 (← grouped Char.isDigit)
  return if negative then -n else n

/-- The places after the point. -/
def fraction : Reader (List Char) := do
  let _ ← one (· == '.')
  grouped Char.isDigit

/-- A number with a fraction or an exponent.  One that is too large is
refused unless it is negative. -/
def float : Reader Unit := do
  let (negative, whole) ← decimal
  let places ← maybe fraction
  let power ← maybe exponent
  guard (places.isSome || power.isSome)
  let places := places.getD []
  guard (negative || !overflows (whole ++ places) (power.getD 0 - places.length))

/-- Infinity, or no number at all. -/
def unusual : Reader Unit := do
  let _ ← sign
  literal "inf" <|> literal "nan"

/-! ## §4. Dates and times. -/

/-- A number of so many digits between two bounds. -/
def field (size low high : Nat) : Reader Nat := fun cs =>
  let digits := cs.take size
  let n := valueOf 10 digits
  if digits.length = size && digits.all Char.isDigit && low ≤ n && n ≤ high then
    some (n, cs.drop size)
  else none

/-- Number of days of a month. -/
def daysOf (year month : Nat) : Nat :=
  if month = 2 then
    if year % 4 = 0 ∧ (year % 100 ≠ 0 ∨ year % 400 = 0) then 29 else 28
  else if month = 4 ∨ month = 6 ∨ month = 9 ∨ month = 11 then 30
  else 31

/-- A day of the calendar. -/
def day : Reader Unit := do
  let year ← field 4 0 9999
  literal "-"
  let month ← field 2 1 12
  literal "-"
  let _ ← field 2 1 (daysOf year month)

/-- A time of day.  A minute may have a leap second. -/
def time : Reader Unit := do
  let _ ← field 2 0 23
  literal ":"
  let _ ← field 2 0 59
  literal ":"
  let _ ← field 2 0 60
  let _ ← maybe do
    literal "."
    run1 Char.isDigit

/-- The distance from universal time. -/
def zone : Reader Unit :=
  (do let _ ← one fun c => c == 'Z' || c == 'z') <|> do
    let _ ← one fun c => c == '+' || c == '-'
    let _ ← field 2 0 23
    literal ":"
    let _ ← field 2 0 59

/-- A day, a time, or both. -/
def date : Reader Unit :=
  (do
    day
    let _ ← maybe do
      let _ ← one fun c => c == 'T' || c == 't' || c == ' '
      time
      let _ ← maybe zone) <|> time

/-! ## §5. Plain values. -/

/-- A value that holds no others. -/
def plain : Reader Value := do
  match ← peek with
  | some '"' => return .string (← string '"')
  | some '\'' => return .string (← string '\'')
  | some 't' => literal "true"; return .boolean true
  | some 'f' => literal "false"; return .boolean false
  | _ =>
      (do date; return .date) <|> (do float; return .float) <|>
        (do unusual; return .float) <|> (do return .integer (← integer))

end DocNav.Toml.Grammar
