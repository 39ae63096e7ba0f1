/-
  DocNav.Outline.Item
  ───────────────────
  What a single line says: its indentation, its key and its value, and the
  columns where key and value stand.

  The key runs from the indentation to the first colon.  The value starts
  at the first character after that colon that is not a space.  If that is
  a quote, the value stands between it and the last such quote of the
  line, and a quote that is never closed makes it empty.  A line without a
  colon has an empty key and an empty value.
-/
import DocNav.Text.Lines
import DocNav.Text.Utf16
import DocNav.Position

namespace DocNav

/-- What one line says. -/
structure Item where
  /-- Number of leading spaces. -/
  indent : Nat
  /-- The text between the indentation and the first colon. -/
  key : String
  /-- The text after the colon, without its quotes if it was quoted. -/
  value : String
  /-- Where the key stands. -/
  keyRange : Range
  /-- Where the value stands. -/
  valueRange : Range
  deriving Repr, DecidableEq, Inhabited

namespace Item

/-- The characters that may enclose a value. -/
def isQuote (c : Char) : Bool :=
  c == '"' || c == '\''

/-- The part of a line after its colon as a value: the character it starts
at, counted from the start of that part, and its characters.  Nothing if
no value stands there. -/
def value? (after : List Char) : Option (Nat × List Char) :=
  let gap := (after.takeWhile (· == ' ')).length
  match after.drop gap with
  | [] => none
  | c :: cs =>
      if isQuote c then (Text.beforeLast c cs).map (gap + 1, ·)
      else some (gap, c :: cs)

/-- Read a line with the given number. -/
def read (line : UInt32) (text : List Char) : Item :=
  let indent := (text.takeWhile (· == ' ')).length
  let keyed := text.drop indent
  let key := keyed.takeWhile (· != ':')
  let span (start size : Nat) : Range :=
    .within line (Utf16.columns (text.take start)) (Utf16.columns (text.take (start + size)))
  let bare : Item :=
    { indent, key := "", value := "", keyRange := span indent 0, valueRange := span text.length 0 }
  match keyed.drop key.length with
  | [] => bare
  | _ :: after =>
      let item := { bare with
        key := String.ofList key
        keyRange := span indent key.length }
      match value? after with
      | none => item
      | some (start, value) =>
          { item with
            value := String.ofList value
            valueRange := span (indent + key.length + 1 + start) value.length }

end Item

end DocNav
