/-
  DocNav.Toml.Value
  ─────────────────
  TOML values, and how the statements of a text make one table.

  A table may be written in one place only.  What a table remembers is
  how it came to be: written as a value, opened by a header, implied by
  the header of a table below it, or made by a dotted key.  A header may
  open a table that so far was only implied; a dotted key may add to
  tables that dotted keys made.  Whatever else meets a name that is taken
  is refused.
-/

namespace DocNav.Toml

/-- How a table came to be. -/
inductive Origin where
  /-- Written in braces as a value. -/
  | inline
  /-- Opened by a header of its own. -/
  | header
  /-- Implied by the header of a table below it. -/
  | implied
  /-- Made by a dotted key. -/
  | dotted
  deriving Repr, DecidableEq

/-- A value.  Floats and dates are known to be well written and are not
kept. -/
inductive Value where
  | string (s : String)
  | integer (n : Int)
  | float
  | boolean (b : Bool)
  | date
  | array (items : List Value)
  | table (origin : Origin) (entries : List (String × Value))
  /-- Tables that headers of an array have opened, the first one first. -/
  | tables (all : List (List (String × Value)))
  deriving Repr, BEq, Inhabited

/-- The entries of a table. -/
abbrev Entries := List (String × Value)

namespace Entries

/-- The entries with the value of a name that is there replaced. -/
def replace (es : Entries) (name : String) (v : Value) : Entries :=
  es.map fun e => if e.1 == name then (name, v) else e

/-- Change the last of a list. -/
def updateLast? (update : Entries → Option Entries) (all : List Entries) :
    Option (List Entries) :=
  match all.reverse with
  | [] => none
  | last :: before => (update last).map fun e => (e :: before).reverse

/-! ## §1. Keys. -/

/-- Put a value under a dotted key: `path` leads to the table, `name` is
the key in it. -/
def assign? (name : String) (v : Value) : List String → Entries → Option Entries
  | [], es => if (es.lookup name).isSome then none else some (es ++ [(name, v)])
  | key :: path, es =>
      match es.lookup key with
      | none => (assign? name v path []).map fun inner => es ++ [(key, .table .dotted inner)]
      | some (.table .dotted inner) =>
          (assign? name v path inner).map fun inner' => es.replace key (.table .dotted inner')
      | some (.table .implied inner) =>
          if path.isEmpty then none
          else (assign? name v path inner).map fun inner' => es.replace key (.table .implied inner')
      | some (.tables all) =>
          if path.isEmpty then none
          else (updateLast? (assign? name v path) all).map fun all' => es.replace key (.tables all')
      | some _ => none

/-! ## §2. Headers. -/

/-- Follow the names of a header down to the table that holds its last
name, implying tables on the way, and change that table. -/
def descend? (update : Entries → Option Entries) : List String → Entries → Option Entries
  | [], es => update es
  | key :: path, es =>
      match es.lookup key with
      | none => (descend? update path []).map fun inner => es ++ [(key, .table .implied inner)]
      | some (.table .inline _) => none
      | some (.table origin inner) =>
          (descend? update path inner).map fun inner' => es.replace key (.table origin inner')
      | some (.tables all) =>
          (updateLast? (descend? update path) all).map fun all' => es.replace key (.tables all')
      | some _ => none

/-- Open a table. -/
def openTable? (name : String) (es : Entries) : Option Entries :=
  match es.lookup name with
  | none => some (es ++ [(name, .table .header [])])
  | some (.table .implied inner) => some (es.replace name (.table .header inner))
  | some _ => none

/-- Open another table of an array. -/
def openElement? (name : String) (es : Entries) : Option Entries :=
  match es.lookup name with
  | none => some (es ++ [(name, .tables [[]])])
  | some (.tables all) => some (es.replace name (.tables (all ++ [[]])))
  | some _ => none

/-- The entries of a table written in braces. -/
def ofPairs? (pairs : List (List String × String × Value)) : Option Entries :=
  pairs.foldlM (fun es (path, name, v) => assign? name v path es) []

end Entries

/-! ## §3. Statements. -/

/-- A statement of a text: a header, or a key with its value. -/
inductive Statement where
  | header (path : List String) (name : String)
  | element (path : List String) (name : String)
  | assign (path : List String) (name : String) (v : Value)
  deriving Repr, BEq

/-- The table so far, and the names of the table that the last header
opened. -/
structure Document where
  entries : Entries
  current : List String

/-- Add what a statement says. -/
def Document.add? (d : Document) : Statement → Option Document
  | .header path name =>
      (d.entries.descend? (Entries.openTable? name) path).map (⟨·, path ++ [name]⟩)
  | .element path name =>
      (d.entries.descend? (Entries.openElement? name) path).map (⟨·, path ++ [name]⟩)
  | .assign path name v =>
      (d.entries.descend? (Entries.assign? name v path) d.current).map (⟨·, d.current⟩)

/-- The table that a list of statements makes. -/
def ofStatements? (statements : List Statement) : Option Entries :=
  (statements.foldlM Document.add? ⟨[], []⟩).map (·.entries)

end DocNav.Toml
