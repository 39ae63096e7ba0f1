/-
  DocNav.Json.Reader
  ──────────────────
  Reading a JSON text.

  Values stand inside each other to a limited depth.  Of fields of one
  name the last one counts.
-/
import DocNav.Text.Hex
import DocNav.Text.Reader
import DocNav.Json.Basic

namespace DocNav.Json

namespace Grammar

open Reader

/-! ## §1. Blank space. -/

/-- Blank space between values. -/
def blanks : Reader Unit := do
  let _ ← run fun c => c == ' ' || c == '\t' || c == '\n' || c == '\r'

/-! ## §2. Strings. -/

/-- The character that stands after a backslash, and how many characters
spell it.  Characters past U+FFFF are spelled as two units. -/
def escape? : List Char → Option (Char × Nat)
  | '"' :: _ => some ('"', 1)
  | '\\' :: _ => some ('\\', 1)
  | '/' :: _ => some ('/', 1)
  | 'b' :: _ => some ('\x08', 1)
  | 'f' :: _ => some ('\x0c', 1)
  | 'n' :: _ => some ('\n', 1)
  | 'r' :: _ => some ('\r', 1)
  | 't' :: _ => some ('\t', 1)
  | 'u' :: rest => do
      let high ← Hex.number? 4 rest
      if high.isValidChar then return (Char.ofNat high, 5)
      match rest.drop 4 with
      | '\\' :: 'u' :: more =>
          let low ← Hex.number? 4 more
          if 0xD800 ≤ high ∧ high < 0xDC00 ∧ 0xDC00 ≤ low ∧ low < 0xE000 then
            return (Char.ofNat (0x10000 + (high - 0xD800) * 0x400 + (low - 0xDC00)), 11)
          else none
      | _ => none
  | _ => none

/-- The rest of a string, after its opening quote. -/
def stringRest : Reader (List Char) := fun cs =>
  match cs with
  | [] => none
  | c :: rest =>
      if c == '"' then some ([], rest)
      else if c == '\\' then
        match escape? rest with
        | none => none
        | some (e, n) => (stringRest (rest.drop n)).map fun (s, r) => (e :: s, r)
      else if c.toNat < 0x20 then none
      else (stringRest rest).map fun (s, r) => (c :: s, r)
termination_by cs => cs.length
decreasing_by all_goals simp only [List.length_cons, List.length_drop]; omega

/-- A string. -/
def string : Reader String := do
  literal "\""
  return String.ofList (← stringRest)

/-! ## §3. Numbers. -/

/-- A run of digits that is not empty. -/
def digits : Reader (List Char) :=
  run1 Char.isDigit

/-- The exponent of a number. -/
def exponent : Reader Int := do
  let _ ← one fun c => c == 'e' || c == 'E'
  let sign ← maybe (one fun c => c == '+' || c == '-')
  let n : Int := (← digits).foldl (fun n d => n * 10 + (d.toNat - 0x30)) 0
  return if sign = some '-' then -n else n

/-- The whole number that digits spell, if it has 64 bits; there is no
whole number below zero that is zero. -/
def whole? (negative : Bool) (ds : List Char) : Option Int :=
  let n : Int := ds.foldl (fun n d => n * 10 + (d.toNat - 0x30)) 0
  if negative then (if 0 < n ∧ n ≤ 9223372036854775808 then some (-n) else none)
  else if n < 18446744073709551616 then some n
  else none

/-- A number; without a fraction and an exponent it may be whole. -/
def number : Reader Json := do
  let negative := (← maybe (one (· == '-'))).isSome
  let ds ← digits
  guard (ds.length = 1 ∨ ds.head? ≠ some '0')
  let decimals ← maybe do
    let _ ← one (· == '.')
    digits
  let power ← maybe exponent
  match whole? negative ds, decimals, power with
  | some n, none, none => return .int n
  | _, _, _ =>
      match Real.ofText? negative ds (decimals.getD []) (power.getD 0) with
      | some x => return .real x
      | none => failure

/-! ## §4. Values. -/

/-- Items with commas between them up to a closing mark, at most `n + 1`
of them. -/
def items {α : Type} (item : Reader α) (close : String) : Nat → Reader (List α)
  | 0 => do
      let a ← item
      literal close
      return [a]
  | n + 1 => do
      let a ← item
      (do literal close; return [a]) <|> do
        literal ","
        return a :: (← items item close n)

/-- Items between marks, none or more.  Each takes up some of the text, so
its length bounds their number. -/
def enclosed {α : Type} (left right : String) (item : Reader α) : Reader (List α) := do
  literal left
  blanks
  (do literal right; return []) <|> do
    items item right (← get).length

/-- The fields with one more, in the order of the names; a field of the
same name is replaced. -/
def insertField (name : String) (value : Json) : List (String × Json) → List (String × Json)
  | [] => [(name, value)]
  | (k, v) :: rest =>
      if name < k then (name, value) :: (k, v) :: rest
      else if name == k then (name, value) :: rest
      else (k, v) :: insertField name value rest

/-- A value with others inside it to the given depth. -/
def value : Nat → Reader Json
  | 0 => failure
  | depth + 1 => do
      blanks
      let inner : Reader Json := value depth
      let field : Reader (String × Json) := do
        blanks
        let name ← string
        blanks
        literal ":"
        return (name, ← inner)
      let v ← match ← peek with
        | some '"' => do return .str (← string)
        | some '[' => do return .arr (← enclosed "[" "]" inner)
        | some '\x7b' => do
            let pairs ← enclosed "\x7b" "\x7d" field
            return .obj (pairs.foldl (fun fs (name, v) => insertField name v fs) [])
        | some 'n' => do literal "null"; return .null
        | some 't' => do literal "true"; return .bool true
        | some 'f' => do literal "false"; return .bool false
        | _ => number
      blanks
      return v

end Grammar

/-- The greatest depth of values inside values. -/
def depthLimit : Nat := 128

/-- The value of a JSON text. -/
def parse? (text : List Char) : Option Json :=
  match Grammar.value depthLimit text with
  | some (v, []) => some v
  | _ => none

end DocNav.Json
