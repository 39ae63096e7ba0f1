/-
  DocNav.Domain.Basic
  ───────────────────
  The names of hosts in ASCII.

  A name is mapped to its plain form, composed and cut into labels.  Labels
  in ASCII stay as they are; any other is checked and written in letters,
  digits and hyphens after the mark `xn--`.  A label that comes with the
  mark has to stand for a label outside ASCII that passes the same checks.
-/
import DocNav.Domain.Direction
import DocNav.Domain.Joining
import DocNav.Domain.Punycode
import DocNav.Text.Composition

namespace DocNav.Domain

/-! ## §1. Checks. -/

/-- Characters of ASCII that no name has. -/
def isForbidden (c : Char) : Bool :=
  c.toNat ≤ 0x20 || c.toNat == 0x7F ||
    ['%', '#', '/', ':', '<', '>', '?', '@', '[', '\\', ']', '^', '|'].contains c

/-- All characters are in ASCII. -/
def isAscii (cs : List Char) : Bool :=
  cs.all (·.toNat < 0x80)

/-- The mark of a written label. -/
def mark : List Char := "xn--".toList

/-- A label may be part of a name: its characters stay as they are, the
first is no mark, and joiners stand where they may. -/
def isLabel (label : List Char) : Bool :=
  label.all (fun c => isStable c && !isForbidden c) &&
    (label.head?.bind Mark.of?).isNone && joinersFit [] label

/-- The label that a written label with its mark stands for. -/
def unmarked? (label : List Char) : Option (List Char) := do
  let plain ← Punycode.decode? (label.drop mark.length)
  guard (!isAscii plain && Composition.composed plain == plain)
  return plain

/-! ## §2. Names. -/

/-- A label outside ASCII, if it is one or stands for one. -/
def plainLabel? (label : List Char) : Option (List Char) :=
  if mark.isPrefixOf label then unmarked? label else some label

/-- The labels of a name in plain form, if they may be its labels. -/
def labels? (name : List Char) : Option (List (List Char)) := do
  let plain ← map? name
  let labels ← (Text.splitOn '.' (Composition.composed plain)).mapM plainLabel?
  guard (labels.all isLabel && areDirected labels)
  return labels

/-- A label in ASCII. -/
def written (label : List Char) : List Char :=
  if isAscii label then label else mark ++ Punycode.encode label

/-- The name has nothing but ASCII, and no label with the mark. -/
def isPlain (name : List Char) : Bool :=
  isAscii name && (Text.splitOn '.' (name.map Char.toLower)).all (!mark.isPrefixOf ·)

/-- The name of a host in ASCII. -/
def toAscii? (name : List Char) : Option (List Char) :=
  if isPlain name then
    if name.any isForbidden then none else some (name.map Char.toLower)
  else (labels? name).map fun labels => ['.'].intercalate (labels.map written)

end DocNav.Domain
