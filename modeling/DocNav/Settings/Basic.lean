/-
  DocNav.Settings.Basic
  ─────────────────────
  The settings of the server and the file they are read from.

  A file that is missing, is not text, is not TOML, or has something of
  the wrong kind where a setting is expected gives the defaults.  Names
  that mean nothing here are passed over.  A record of settings may also
  be written as an array of its values in order.
-/
import DocNav.Text.Utf8
import DocNav.Toml.Parser

namespace DocNav

/-- How the server logs. -/
structure LogSettings where
  /-- What to log. -/
  level : Option String
  deriving Repr, DecidableEq

/-- The settings of the server. -/
structure Settings where
  log : Option LogSettings
  deriving Repr, DecidableEq

namespace Settings

/-- What to log if nothing is set. -/
def defaultLevel : String := "info"

/-- Nothing is set. -/
def default : Settings :=
  ⟨none⟩

instance : Inhabited Settings := ⟨default⟩

/-- What to log. -/
def logLevel (s : Settings) : String :=
  (s.log.bind (·.level)).getD defaultLevel

/-- What to log, as a value. -/
def level? : Toml.Value → Option String
  | .string s => some s
  | _ => none

/-- How to log, as a value.  A date is a record with no known name. -/
def log? : Toml.Value → Option LogSettings
  | .table _ entries =>
      match entries.lookup "level" with
      | none => some ⟨none⟩
      | some v => (level? v).map (⟨some ·⟩)
  | .array (v :: _) => (level? v).map (⟨some ·⟩)
  | .date => some ⟨none⟩
  | _ => none

/-- The settings that a table holds. -/
def ofEntries? (entries : Toml.Entries) : Option Settings :=
  match entries.lookup "log" with
  | none => some default
  | some v => (log? v).map (⟨some ·⟩)

/-- The settings that a text holds. -/
def parse? (bytes : List UInt8) : Option Settings := do
  ofEntries? (← Toml.parse? (← Utf8.decodeAll? bytes))

/-- The settings of a file; nothing stands for a file that is missing. -/
def load (content : Option (List UInt8)) : Settings :=
  (content.bind parse?).getD default

end Settings

end DocNav
