/-
  DocNav.Main
  ───────────
  The server on the standard streams: messages come in on standard input
  and go out on standard output, and the log goes to standard error.

  The settings are looked for from the working directory; they say which
  events the log keeps.
-/
import DocNav.Session.Basic
import DocNav.Protocol.Frame
import DocNav.Settings.Discovery

namespace DocNav.Main

open Protocol

/-! ## §1. The log. -/

/-- How many levels a setting lets through: warnings, and with each step
more. -/
def verbosity (setting : String) : Nat :=
  match setting.toLower with
  | "off" | "error" => 0
  | "warn" => 1
  | "info" => 2
  | "debug" | "trace" => 3
  | _ => 2

/-- The step at which a level is let through. -/
def threshold : Level → Nat
  | .warn => 1
  | .info => 2
  | .debug => 3

/-- An event on one line. -/
def logLine (e : Event) : String :=
  let fields := e.fields.map fun (name, value) =>
    match value with
    | .str s => s!" {name}={s}"
    | v => s!" {name}={v.compact}"
  e.level.text ++ " " ++ e.message ++ String.join fields

/-! ## §2. Settings. -/

/-- The bytes of a file, if it can be read. -/
def readFile? (path : String) : IO (Option (List UInt8)) := do
  try
    return some (← IO.FS.readBinFile path).toList
  catch _ => return none

/-- The tree of the settings files that may count for a starting path with
the given directories below it. -/
def probe (start : Path) (names : List String) : IO FileTree := do
  let mut tree := FileTree.empty.addDirectory start
  for dir in start.lineage ++ names.map start.child do
    let file := dir.child Settings.fileName
    if let some bytes ← readFile? file.fullText then
      tree := tree.addFile file bytes
  return tree

/-! ## §3. The streams. -/

/-- Send a value. -/
def send (output : IO.FS.Stream) (j : Json) : IO Unit := do
  output.putStr (framed j)
  output.flush

/-- Read a header up to its empty line, and give the length it names;
nothing at the end of the input. -/
partial def readHeader (input : IO.FS.Stream) (length : Option Nat) : IO (Option Nat) := do
  let line ← input.getLine
  if line.isEmpty then return none
  let text := line.trimAscii.toString
  if text.isEmpty then
    match length with
    | some n => return some n
    | none => readHeader input none
  else readHeader input ((contentLength? text).or length)

/-- Read so many bytes. -/
partial def readBytes (input : IO.FS.Stream) (count : Nat) (found : List UInt8) :
    IO (List UInt8) := do
  if count = 0 then return found
  let chunk ← input.read count.toUSize
  if chunk.isEmpty then return found
  readBytes input (count - chunk.size) (found ++ chunk.toList)

/-- Handle messages until the input ends or the editor leaves. -/
partial def loop (input output log : IO.FS.Stream) (detail : Nat) (s : Session) : IO Unit := do
  let some length ← readHeader input none | return
  match Body.read (← readBytes input length []) with
  | .unreadable =>
      send output unreadableResponse
      loop input output log detail s
  | .other =>
      send output otherResponse
      loop input output log detail s
  | .call m =>
      match s.handle m with
      | (.error _, _) => return
      | (.ok reply, s') =>
          for e in reply.told.events do
            if threshold e.level ≤ detail then log.putStrLn (logLine e)
          for n in reply.told.notices do send output n.toJson
          if let some r := reply.response then send output r.toJson
          loop input output log detail s'

end DocNav.Main

open DocNav in
/-- Serve an editor on the standard streams. -/
def main : IO Unit := do
  let log ← IO.getStderr
  -- Without a working directory the search starts from the path of no characters.
  let cwd ← try IO.currentDir catch _ => pure ""
  let start := Path.read [] cwd.toString
  let names ← try
      let subs ← (← cwd.readDir).toList.filterM (·.path.isDir)
      pure (subs.map (·.fileName))
    catch _ => pure []
  let tree ← DocNav.Main.probe start names
  let (settings, dir) := Settings.discover tree start
  let detail := DocNav.Main.verbosity settings.logLevel
  if 2 ≤ detail then
    let place := s!"version={serverVersion} settings_dir={dir.fullText}"
    log.putStrLn ("INFO starting OpenAPI language server " ++ place)
  DocNav.Main.loop (← IO.getStdin) (← IO.getStdout) log detail Session.new
