import Std.Time
import WastePass.Display.Draw
import WastePass.Startup

/-!
# The console program

    The outer layer: it hands the environment, the files and the clock to `Startup.run`,
    adds what came of it to the log, and then lets a session handle every line of input
    and shows it on a terminal of the usual size. Addresses are not fetched here, so
    none of them answers.
-/

namespace WastePass.Main

open WastePass.Text (Bytes)

/-- The bytes of a file, if it can be read. -/
def fileBytes? (path : String) : IO (Option Bytes) := do
  try
    return some (← IO.FS.readBinFile path).toList
  catch _ => return none

/-- The settings of an environment as it is kept by the system: entries that end with a
    zero byte, each a name, an equals sign and a value. -/
def environmentOf (bytes : Bytes) : Environment :=
  (bytes.splitOnP (· = 0)).filterMap fun entry => do
    let text ← Text.Utf8.strict? entry
    match text.toList.span (· ≠ '=') with
    | (name, '=' :: value) => return (String.ofList name, String.ofList value)
    | _ => none

/-- The text of a place. -/
def pathOf (place : List String) : String :=
  "/" ++ "/".intercalate place

/-- The environment files that there are at or above a directory. -/
def environmentFiles (directory : List String) :
    Nat → IO (List (List String × Bytes))
  | 0 => return []
  | n + 1 => do
    let place := directory.take n ++ [Environment.fileName]
    let others ← environmentFiles directory n
    match ← fileBytes? (pathOf place) with
    | some bytes => return (place, bytes) :: others
    | none => return others

/-- The place of a path, as far as its names tell. -/
def placeOf (here : List String) (text : String) : List String :=
  match Path.read text with
  | .error _ => []
  | .ok path =>
    path.names.foldl
      (fun place name =>
        if name = "." then place else if name = ".." then place.dropLast else place ++ [name])
      (if path.absolute then [] else here)

/-- The file at a path, if it can be read. -/
def fileAt (here : List String) (path : String) : IO (List (List String × Bytes)) := do
  match ← fileBytes? path with
  | some bytes => return [(placeOf here path, bytes)]
  | none => return []

/-- The files that a run with some settings uses. The log is there from now on. -/
def filesOf (here : List String) (config : Config) : IO (List (List String × Bytes)) := do
  let log ← match config.logFile with
    | none => pure []
    | some path => do
      try
        IO.FS.withFile path .append fun _ => pure ()
      catch _ => pure ()
      fileAt here path
  let tables ← match config.source with
    | .file path => fileAt here path
    | _ => pure []
  return log ++ tables

/-- Adds to a file what it holds on one disk beyond what it held on another. -/
def flush (before after : Disk) (path : String) (place : List String) : IO Unit := do
  let old := (before.file? place).getD []
  let new := (after.file? place).getD []
  if old.length < new.length then
    IO.FS.withFile path .append fun handle =>
      handle.write (ByteArray.mk (new.drop old.length).toArray)

/-- The time of the day. -/
def clock : IO ClockTime := do
  let now ← Std.Time.PlainDateTime.now
  return ⟨now.hour.val.toNat, now.minute.val.toNat, now.second.val.toNat⟩

/-- The time as it is written in front of a line of the log. -/
def stamp : IO String := do
  let now ← Std.Time.PlainDateTime.now
  return now.format "uuuu-MM-dd'T'HH:mm:ss.SSSSSS'Z'"

/-- Shows a session. -/
def showSession (s : Session) : IO Unit := do
  for row in (Display.draw 80 24 s).rows do
    IO.println (String.join (row.map (·.symbol)))

/-- Handles lines of input until the session quits or there are none. -/
partial def serve (input : IO.FS.Stream) (s : Session) : IO Unit := do
  showSession s
  let line ← input.getLine
  if line.isEmpty then return
  match s.handleAll (← clock) (Key.ofReport line.toList) with
  | (_, .quit) => return
  | (s, _) => serve input s

/-- Starts and then serves. The result is zero unless the start fails. -/
def run : IO UInt32 := do
  let here := (Path.parts (← IO.currentDir).toString).filter (· ≠ "")
  let env := environmentOf ((← fileBytes? "/proc/self/environ").getD [])
  let settings : Disk := ⟨← environmentFiles here (here.length + 1), here⟩
  let files ← match Config.ofEnvironment (env.completed settings) with
    | .ok config => filesOf here config
    | .error _ => pure []
  let disk : Disk := ⟨settings.files ++ files, here⟩
  let (result, after) := Startup.run env (← stamp) disk fun _ => none
  if let .ok config := Config.ofEnvironment (env.completed settings) then
    if let some path := config.logFile then
      flush disk after path (placeOf here path)
  match result with
  | .error e =>
    IO.eprintln e.report
    return 1
  | .ok started =>
    serve (← IO.getStdin) (Session.start started.tables started.config.historyLimit)
    return 0

end WastePass.Main

/-- The console program. -/
def main : IO UInt32 := WastePass.Main.run
