/-
  DocNav.Outline.Navigation
  ─────────────────────────
  From a line to the key that its value points to, and from a line to the
  values that point to it.
-/
import DocNav.Outline.Pointer

namespace DocNav.Outline

/-- Where the key stands that the value of `line` points to. -/
def definition? (o : Outline) (line : Nat) : Option Range := do
  let source ← o.entry? line
  let target ← o.resolve? source.value
  return (← o.entry? target).keyRange

/-- Where the values stand that are the pointer of `line`. -/
def references (o : Outline) (line : Nat) : List Range :=
  match o.pointerOf? line with
  | none => []
  | some pointer =>
      (o.entries.toList.filter (·.value == pointer)).map (·.valueRange)

end DocNav.Outline
