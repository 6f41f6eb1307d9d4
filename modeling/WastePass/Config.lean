import WastePass.Decimal.Whole
import WastePass.Environment
import WastePass.Source
import WastePass.Text.Blank

/-!
# Configuration — the settings of a run

    Four names of the environment are looked at, and a blank value is as good as none.
    Only the length of the history can be wrong: it has to be a numeral, and its value
    has to lie between the bounds.
-/

namespace WastePass

/-- The settings of a run. -/
structure Config where
  source : Source
  logFile : Option String
  logFilter : String
  historyLimit : Nat
  deriving DecidableEq, Repr

/-- Why the environment gives no settings: the length of the history is no numeral, or it is
    out of bounds. -/
inductive ConfigError where
  | notNumber (raw : String) (fault : Decimal.NumeralFault)
  | outOfBounds (limit : Nat)
  deriving DecidableEq, Repr

namespace ConfigError

/-- What is reported about an error, and about its cause if it has one. -/
def chain : ConfigError → List String
  | .notNumber raw fault =>
      ["AFVALPAS_HISTORY must be a number, got '" ++ raw ++ "'", fault.message]
  | .outOfBounds limit =>
      ["AFVALPAS_HISTORY must be between 1 and 1000, got " ++ toString limit]

end ConfigError

namespace Config

/-- How many lookups the history keeps when nothing is said. -/
def defaultHistory : Nat := 20

/-- The greatest length of the history. -/
def maxHistory : Nat := 1000

/-- The value of a name, if it is not blank. -/
def setting (env : Environment) (name : String) : Option String :=
  (env.get? name).filter fun value => !Text.allBlank value

/-- An address begins with the name of its protocol. -/
def isAddress (location : String) : Bool :=
  "http://".toList.isPrefixOf location.toList || "https://".toList.isPrefixOf location.toList

/-- The source that a location means. -/
def sourceOf : Option String → Source
  | none => .embedded
  | some location => if isAddress location then .remote location else .file location

/-- The length of the history that a value means. -/
def historyOf : Option String → Except ConfigError Nat
  | none => .ok defaultHistory
  | some raw => do
    let limit ← (Decimal.whole (Text.trim raw.toList)).mapError (.notNumber raw)
    if 1 ≤ limit ∧ limit ≤ maxHistory then return limit else throw (.outOfBounds limit)

/-- The settings that an environment gives. -/
def ofEnvironment (env : Environment) : Except ConfigError Config := do
  let limit ← historyOf (setting env "AFVALPAS_HISTORY")
  return {
    source := sourceOf (setting env "AFVALPAS_TABLES")
    logFile := setting env "AFVALPAS_LOG_FILE"
    logFilter := (setting env "RUST_LOG").getD "info"
    historyLimit := limit }

end Config

end WastePass
