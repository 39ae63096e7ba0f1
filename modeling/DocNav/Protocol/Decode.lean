/-
  DocNav.Protocol.Decode
  ──────────────────────
  From JSON values to the types of the parameters, and what is said of a
  value that does not fit.

  The fields of a record are looked at in the order in which they stand;
  the first that does not fit is reported.  Only then are missing fields
  reported, in the order in which the record names them.  A record may
  also be an array of its fields.  Fields that the record does not name
  are ignored, except where a record spreads over others: then they are
  held until the fields of its own have been looked at.
-/
import DocNav.Json.Basic
import DocNav.Uri.Parser
import DocNav.Buffer.Edit

namespace DocNav.Protocol

/-! ## §1. Errors. -/

/-- Why a value does not fit. -/
inductive DecodeError where
  /-- A field that must be there is not. -/
  | missingField (name : String)
  /-- A value of the wrong kind. -/
  | invalidType (found : Json) (expected : String)
  /-- A value of the right kind that is not allowed. -/
  | invalidValue (found : Json) (expected : String)
  /-- An array with the wrong number of items. -/
  | invalidLength (found : Nat) (expected : String)
  /-- A word that is none of those allowed. -/
  | unknownVariant (found : String) (allowed : List String)
  /-- A value that is none of the forms a type has. -/
  | noVariant (type : String)
  /-- A text that is not an address. -/
  | invalidAddress (found : String) (cause : UriError)

/-- A value in an error message. -/
def shown : Json → String
  | .null => "null"
  | .bool b => "boolean \x60" ++ (if b then "true" else "false") ++ "\x60"
  | .int n => "integer \x60" ++ toString n ++ "\x60"
  | .real x => "floating point \x60" ++ x.text ++ "\x60"
  | .str s => "string " ++ Printable.quoted s
  | .arr _ => "sequence"
  | .obj _ => "map"

/-- Words in an error message, the last ones joined as a list of choices. -/
def choices (words : List String) : String :=
  let marked := words.map fun w => "\x60" ++ w ++ "\x60"
  match marked with
  | [a] => a
  | [a, b] => a ++ " or " ++ b
  | _ => "one of " ++ ", ".intercalate marked

/-- The wording of an error. -/
def DecodeError.message : DecodeError → String
  | .missingField name => "missing field \x60" ++ name ++ "\x60"
  | .invalidType found expected => "invalid type: " ++ shown found ++ ", expected " ++ expected
  | .invalidValue found expected => "invalid value: " ++ shown found ++ ", expected " ++ expected
  | .invalidLength found expected =>
      "invalid length " ++ toString found ++ ", expected " ++ expected
  | .unknownVariant found allowed =>
      "unknown variant \x60" ++ found ++ "\x60, expected " ++ choices allowed
  | .noVariant type => "data did not match any variant of untagged enum " ++ type
  | .invalidAddress found cause => cause.message ++ ": " ++ Printable.quoted found

/-- How a value is looked at. -/
inductive Source where
  /-- As it stands in the message. -/
  | direct
  /-- After it has been held. -/
  | held
  deriving Repr, DecidableEq

/-- A reader of values. -/
abbrev Decoder (α : Type) := Source → Json → Except DecodeError α

/-- A reader that only looks whether a value fits. -/
abbrev Rule := Decoder Unit

/-- The rule that a value can be read. -/
def Decoder.rule {α : Type} (decode : Decoder α) : Rule := fun source j =>
  (decode source j).map fun _ => ()

/-! ## §2. Plain values. -/

/-- A string. -/
def string : Decoder String
  | _, .str s => .ok s
  | _, j => .error (.invalidType j "a string")

/-- A truth value. -/
def boolean : Decoder Bool
  | _, .bool b => .ok b
  | _, j => .error (.invalidType j "a boolean")

/-- A 32-bit word. -/
def word : Decoder UInt32
  | _, .int n =>
      if 0 ≤ n ∧ n < 4294967296 then .ok n.toNat.toUInt32
      else .error (.invalidValue (.int n) "u32")
  | _, j => .error (.invalidType j "u32")

/-- A 32-bit number with a sign. -/
def signed : Decoder Int32
  | _, .int n =>
      if -2147483648 ≤ n ∧ n < 2147483648 then .ok (Int32.ofInt n)
      else .error (.invalidValue (.int n) "i32")
  | _, j => .error (.invalidType j "i32")

/-- Any number. -/
def real : Rule
  | _, .int _ | _, .real _ => .ok ()
  | _, j => .error (.invalidType j "f32")

/-- An address. -/
def address : Decoder Uri
  | _, .str s =>
      match Uri.parse s with
      | .ok uri => .ok uri
      | .error e => .error (.invalidAddress s e)
  | _, j => .error (.invalidType j "a string representing an URL")

/-- A value or null. -/
def nullable {α : Type} (decode : Decoder α) : Decoder (Option α)
  | _, .null => .ok none
  | source, j => (decode source j).map some

/-- An array of values. -/
def list {α : Type} (decode : Decoder α) : Decoder (List α)
  | source, .arr items => items.mapM (decode source)
  | _, j => .error (.invalidType j "a sequence")

/-- An object with values of one kind under any names. -/
def dictionary {α : Type} (decode : Decoder α) : Rule
  | source, .obj pairs => pairs.forM fun (_, value) => decode.rule source value
  | _, j => .error (.invalidType j "a map")

/-- One of a list of words, which may also be the name of the only field of
an object, with null for its value. -/
def oneOf (words : List String) : Rule
  | _, .str s => if words.contains s then .ok () else .error (.unknownVariant s words)
  | _, .obj [(name, value)] =>
      if !words.contains name then .error (.unknownVariant name words)
      else match value with
        | .null => .ok ()
        | j => .error (.invalidType j "unit")
  | _, .obj pairs => .error (.invalidValue (.obj pairs) "map with a single key")
  | _, j => .error (.invalidType j "string or map")

/-- Any value. -/
def anything : Rule :=
  fun _ _ => .ok ()

/-- A value of any of the forms of a type. -/
def either (type : String) (forms : List Rule) : Rule := fun _ j =>
  if forms.any fun form => (form .held j).isOk then .ok () else .error (.noVariant type)

/-- A name for something under way: a number or a string. -/
def token : Rule :=
  either "NumberOrString" [signed.rule, string.rule]

/-! ## §3. Records. -/

/-- A field of a record. -/
structure Field where
  name : String
  rule : Rule
  /-- An object must have it. -/
  needed : Bool
  /-- An array must have it, too. -/
  placed : Bool

/-- A field that must be there. -/
def required {α : Type} (name : String) (decode : Decoder α) : Field :=
  { name, rule := decode.rule, needed := true, placed := true }

/-- A field that may be null, and missing in an object. -/
def optional {α : Type} (name : String) (decode : Decoder α) : Field :=
  { name, rule := (nullable decode).rule, needed := false, placed := true }

/-- A field that may be missing. -/
def defaulted {α : Type} (name : String) (decode : Decoder α) : Field :=
  { name, rule := decode.rule, needed := false, placed := false }

/-- The values of the fields of a record that fits. -/
structure Fields where
  source : Source
  pairs : List (String × Json)

namespace Fields

/-- The value of a field that must be there. -/
def get {α : Type} (fs : Fields) (name : String) (decode : Decoder α) : Except DecodeError α :=
  match fs.pairs.lookup name with
  | some j => decode fs.source j
  | none => .error (.missingField name)

/-- The value of a field that may be missing or null. -/
def get? {α : Type} (fs : Fields) (name : String) (decode : Decoder α) :
    Except DecodeError (Option α) :=
  match fs.pairs.lookup name with
  | some j => nullable decode fs.source j
  | none => .ok none

end Fields

/-- Some things in an error message. -/
def countOf (noun : String) (count : Nat) : String :=
  s!"{count} {noun}" ++ if count == 1 then "" else "s"

/-- Report the first value that does not fit its field. -/
def verify (fields : List Field) (source : Source) (pairs : List (String × Json)) :
    Except DecodeError Unit :=
  pairs.forM fun (name, value) =>
    match fields.find? (·.name == name) with
    | some f => f.rule source value
    | none => .ok ()

/-- Report the first field that must be there and is not. -/
def complete (fields : List Field) (pairs : List (String × Json)) : Except DecodeError Unit :=
  fields.forM fun f =>
    if f.needed && (pairs.lookup f.name).isNone then .error (.missingField f.name) else .ok ()

/-- Report an array that is too short or too long for the fields. -/
def measured (record : String) (fields : List Field) (source : Source) (items : List Json) :
    Except DecodeError Unit :=
  match (fields.drop items.length).findIdx? (·.placed) with
  | some i =>
      .error (.invalidLength (items.length + i)
        (s!"struct {record} with " ++ countOf "element" fields.length))
  | none =>
      if items.length ≤ fields.length then .ok ()
      else .error (.invalidLength items.length (match source with
        | .direct => "fewer elements in array"
        | .held => countOf "element" fields.length ++ " in sequence"))

/-- A record with the given name and fields. -/
def record (name : String) (fields : List Field) : Decoder Fields
  | source, .obj pairs => do
      verify fields source pairs
      complete fields pairs
      return ⟨source, pairs⟩
  | source, .arr items => do
      let pairs := (fields.map (·.name)).zip items
      verify fields source pairs
      measured name fields source items
      return ⟨source, pairs⟩
  | _, j => .error (.invalidType j s!"struct {name}")

/-- The rule that a value is a record. -/
def shape (name : String) (fields : List Field) : Rule :=
  (record name fields).rule

/-- A record that spreads over others: the fields of its own come first,
then those of each part, held.  Such a record is never an array. -/
def spread (name : String) (own : List Field) (parts : List (List Field)) : Decoder Fields
  | source, .obj pairs => do
      verify own source pairs
      complete own pairs
      parts.forM fun part => do
        verify part .held pairs
        complete part pairs
      return ⟨source, pairs⟩
  | _, j => .error (.invalidType j s!"struct {name}")

/-! ## §4. Positions and edits. -/

/-- A position. -/
def position : Decoder Position := fun source j => do
  let fs ← record "Position" [required "line" word, required "character" word] source j
  return ⟨← fs.get "line" word, ← fs.get "character" word⟩

/-- A range. -/
def range : Decoder Range := fun source j => do
  let fs ← record "Range" [required "start" position, required "end" position] source j
  return ⟨← fs.get "start" position, ← fs.get "end" position⟩

/-- An edit. -/
def edit : Decoder Edit := fun source j => do
  let fs ← record "TextDocumentContentChangeEvent"
    [optional "range" range, optional "rangeLength" word, required "text" string] source j
  return { range := ← fs.get? "range" range, text := ← fs.get "text" string }

end DocNav.Protocol
