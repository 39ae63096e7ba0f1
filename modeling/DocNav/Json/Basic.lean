/-
  DocNav.Json.Basic
  ─────────────────
  JSON values as messages carry them.  The fields of an object stand in
  the order of their names.
-/
import DocNav.Json.Real

namespace DocNav

/-- A JSON value. -/
inductive Json where
  | null
  | bool (b : Bool)
  /-- A whole number of 64 bits, with or without a sign. -/
  | int (n : Int)
  /-- Any other number. -/
  | real (x : Real)
  | str (s : String)
  | arr (items : List Json)
  | obj (fields : List (String × Json))
  deriving Repr, BEq, Inhabited

namespace Json

/-- The number of a natural number. -/
def nat (n : Nat) : Json :=
  .int n

/-- The value of an optional part: null if it is missing. -/
def ofOption : Option Json → Json
  | some j => j
  | none => .null

/-- The field of an object. -/
def get? (j : Json) (name : String) : Option Json :=
  match j with
  | .obj fields => fields.lookup name
  | _ => none

end Json

end DocNav
