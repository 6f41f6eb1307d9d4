import WastePass.Config
import WastePass.Environment.File
import WastePass.Log.Sink

/-!
# Starting — from the environment to tables in use

    The settings are read first, then the log is opened, then the tables are loaded. The
    first stage that fails ends the start, and the stages after it do nothing. An
    error is reported with its causes, the outermost first.
-/

namespace WastePass

/-- Why a start fails. -/
inductive StartError where
  | config (e : ConfigError)
  | logFile (path : String) (f : DiskFault)
  | logFilter (text : String) (f : Log.FilterFault)
  | tables (source : Source) (e : SourceError)
  deriving DecidableEq, Repr

namespace StartError

/-- What is reported about an error, and then about each of its causes. -/
def chain : StartError → List String
  | .config e => e.chain
  | .logFile path f => ["Failed to open log file " ++ path, f.message]
  | .logFilter text f => ("Invalid RUST_LOG filter '" ++ text ++ "'") :: f.chain
  | .tables source e =>
      ("Failed to load tables from " ++ source.name) :: e.message :: e.cause?.toList

/-- A text whose lines, but for the first, are moved to the right. -/
def hanging (width : Nat) (text : String) : String :=
  String.ofList
    (text.toList.flatMap fun c =>
      if c = '\n' then '\n' :: List.replicate width ' ' else [c])

/-- A number in a column of five. -/
def numbered (n : Nat) : String :=
  let digits := toString n
  String.ofList (List.replicate (5 - digits.length) ' ') ++ digits ++ ": "

/-- The lines of the causes of an error. One cause stands alone, several are numbered. -/
def causes : List String → String
  | [] => ""
  | [cause] => "\n\nCaused by:\n    " ++ hanging 4 cause
  | all =>
    "\n\nCaused by:" ++ String.join
      (all.zipIdx.map fun (cause, n) => "\n" ++ numbered n ++ hanging 7 cause)

/-- What is shown when a start fails. -/
def report (e : StartError) : String :=
  match e.chain with
  | [] => "Error: "
  | outer :: inner => "Error: " ++ outer ++ causes inner

end StartError

/-- What is in use once a start has succeeded. -/
structure Started where
  config : Config
  tables : Tables
  sink : Option Log.Sink

namespace Startup

/-- Opens the log that the settings ask for. Its file is there from then on, whether or
    not the filter can be read. -/
def openLog (config : Config) (stamp : String) (disk : Disk) :
    Except StartError (Option Log.Sink) × Disk :=
  match config.logFile with
  | none => (.ok none, disk)
  | some path =>
    match disk.placeToAppend path with
    | .error f => (.error (.logFile path f), disk)
    | .ok place =>
      let opened := disk.append place []
      match Log.Filter.read config.logFilter with
      | .error f => (.error (.logFilter config.logFilter f), opened)
      | .ok filter =>
        let sink : Log.Sink := ⟨place, filter⟩
        (.ok (some sink), sink.record stamp opened (.opened path))

/-- Loads the tables that the settings ask for. -/
def loadTables (config : Config) (sink : Option Log.Sink) (stamp : String) (disk : Disk)
    (web : Web) : Except StartError Tables × Disk :=
  match config.source.load disk web with
  | .error e => (.error (.tables config.source e), disk)
  | .ok tables =>
    (.ok tables, Log.recordAll sink stamp disk
      [tables.validatedEvent, .loaded config.source.name tables.districts.length])

/-- Starts with an environment that has been completed. -/
def begin (env : Environment) (stamp : String) (disk : Disk) (web : Web) :
    Except StartError Started × Disk :=
  match Config.ofEnvironment env with
  | .error e => (.error (.config e), disk)
  | .ok config =>
    match openLog config stamp disk with
    | (.error e, disk) => (.error e, disk)
    | (.ok sink, disk) =>
      match loadTables config sink stamp disk web with
      | (.error e, disk) => (.error e, disk)
      | (.ok tables, disk) => (.ok ⟨config, tables, sink⟩, disk)

/-- Starts, with the settings of the environment file added to the environment. -/
def run (env : Environment) (stamp : String) (disk : Disk) (web : Web) :
    Except StartError Started × Disk :=
  begin (env.completed disk) stamp disk web

end Startup

end WastePass
