/-
  DocNav.Toml.Parser
  ──────────────────
  Reading a TOML text into one table.

  Arrays and tables in braces may stand inside each other to a limited
  depth, and a dotted key has a limited number of parts.
-/
import DocNav.Toml.Scalar

namespace DocNav.Toml

namespace Grammar

open Reader

/-! ## §1. Repetition. -/

/-- Items with commas between them, as many as there are; each item takes
up some of the text, so its length bounds their number. -/
def separated {α : Type} (item : Reader α) : Reader (List α) := fun cs =>
  go cs.length cs
where
  /-- At most `n + 1` items. -/
  go (n : Nat) (cs : List Char) : Option (List α × List Char) :=
    match item cs with
    | none => some ([], cs)
    | some (a, rest) =>
        match n, rest with
        | n + 1, ',' :: after =>
            match go n after with
            | some ([], _) => some ([a], rest)
            | some (as, rest') => some (a :: as, rest')
            | none => none
        | _, _ => some ([a], rest)

/-! ## §2. Blank space. -/

/-- A comment, up to the end of its line. -/
def comment : Reader Unit := do
  literal "#"
  let _ ← run isPlain

/-- What may follow on a line: a comment, and the end of the line or of
the text. -/
def lineEnd : Reader Unit := do
  blanks
  let _ ← maybe comment
  match ← peek with
  | none => return
  | some _ => newline

/-- Blanks, comments and line ends. -/
def space : Reader Unit := fun cs =>
  some ((), go cs.length cs)
where
  /-- Skip at most `n` of them. -/
  go : Nat → List Char → List Char
    | 0, cs => cs
    | n + 1, cs =>
        match cs with
        | '#' :: rest => go n (rest.dropWhile isPlain)
        | '\r' :: '\n' :: rest => go n rest
        | c :: rest => if isBlank c || c == '\n' then go n rest else cs
        | [] => []

/-! ## §3. Keys. -/

/-- The greatest depth of values inside values, and the greatest number of
parts of a key. -/
def limit : Nat := 79

/-- A character of a key without quotes. -/
def isKeyChar (c : Char) : Bool :=
  c.isAlphanum || c == '_' || c == '-'

/-- One part of a key. -/
def keyPart : Reader String := do
  blanks
  let part ← match ← peek with
    | some '"' => quoted '"'
    | some '\'' => quoted '\''
    | _ => do
        pure (String.ofList (← run1 isKeyChar))
  blanks
  return part

/-- The parts of a key after the first. -/
def keyParts : Nat → Reader (List String)
  | 0 => return []
  | n + 1 => do
      match ← peek with
      | some '.' =>
          let _ ← one (· == '.')
          let part ← keyPart
          return part :: (← keyParts n)
      | _ => return []

/-- A key: the names of the tables on the way, and its last name. -/
def key : Reader (List String × String) := do
  let first ← keyPart
  let parts := first :: (← keyParts limit)
  guard (parts.length ≤ limit)
  return (parts.dropLast, parts.getLast?.getD "")

/-! ## §4. Values. -/

/-- A key and its value, the value as given. -/
def pair (value : Reader Value) : Reader (List String × String × Value) := do
  let (path, name) ← key
  literal "="
  blanks
  return (path, name, ← value)

/-- An array; a comma may follow its last item. -/
def array (value : Reader Value) : Reader Value := do
  literal "["
  let items ← separated do
    space
    let v ← value
    space
    return v
  if !items.isEmpty then
    let _ ← maybe (literal ",")
  space
  literal "]"
  return .array items

/-- A table in braces, all on one line. -/
def braces (value : Reader Value) : Reader Value := do
  literal "\x7b"
  let pairs ← separated do
    let p ← pair value
    blanks
    return p
  blanks
  literal "\x7d"
  match Entries.ofPairs? pairs with
  | some es => return .table .inline es
  | none => failure

/-- A value with others inside it to the given depth. -/
def value : Nat → Reader Value
  | 0 => plain
  | depth + 1 => do
      match ← peek with
      | some '[' => array (value depth)
      | some '\x7b' => braces (value depth)
      | _ => plain

/-! ## §5. Statements. -/

/-- A header between the given brackets. -/
def header (left right : String) : Reader (List String × String) := do
  literal left
  let names ← key
  literal right
  return names

/-- A statement at the start of a line. -/
def statement : Reader Statement := do
  let s ← (do
      let (path, name) ← header "[[" "]]"
      return Statement.element path name) <|> (do
      let (path, name) ← header "[" "]"
      return Statement.header path name) <|> do
      let (path, name, v) ← pair (value limit)
      return Statement.assign path name v
  lineEnd
  return s

/-- The statements of a text.  Each takes up some of it, so its length
bounds their number. -/
def statements : Reader (List Statement) := fun cs =>
  go cs.length cs
where
  /-- At most `n` statements and empty lines. -/
  go : Nat → List Char → Option (List Statement × List Char)
    | n, cs =>
        match cs.dropWhile isBlank, n with
        | [], _ => some ([], [])
        | _, 0 => none
        | '#' :: rest, n + 1 => (lineEnd ('#' :: rest)).bind fun (_, after) => go n after
        | '\n' :: rest, n + 1 => go n rest
        | '\r' :: rest, n + 1 => (newline ('\r' :: rest)).bind fun (_, after) => go n after
        | rest, n + 1 => do
            let (s, after) ← statement rest
            let (ss, left) ← go n after
            return (s :: ss, left)

end Grammar

/-- The table that a text makes.  A byte order mark may stand before it. -/
def parse? (text : List Char) : Option Entries := do
  let body := if text.head? == some '\uFEFF' then text.drop 1 else text
  let (statements, _) ← Grammar.statements body
  ofStatements? statements

end DocNav.Toml
