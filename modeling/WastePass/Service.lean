import WastePass.Event
import WastePass.Overview
import WastePass.Tables.Amsterdam
import WastePass.Tables.Document
import WastePass.Tables.Inspection

/-!
# The service — lookups against tables that can be replaced

    The service is a register that holds the tables in use, and the tables that were
    kept aside earlier. Every step answers from the register alone; only a replacement
    whose tables are valid, and a restoration, change what it holds.
-/

namespace WastePass

/-- Where new tables are taken from. -/
inductive Supply where
  | amsterdam
  | document (text : String)
  | calls (calls : List Call)
  deriving DecidableEq, Repr

/-- Why a supply gives no tables. -/
inductive SupplyError where
  | calls (f : TableFault)
  | document (e : Tables.DocumentError)
  deriving DecidableEq, Repr

namespace Supply

/-- The tables of a supply. -/
def tables : Supply → Except SupplyError Tables
  | .amsterdam => Amsterdam.tables.mapError (.document ∘ .inconsistent)
  | .document text => (Tables.ofDocument text).mapError .document
  | .calls list => (Tables.ofCalls list).mapError SupplyError.calls

/-- The events of taking tables from a supply. -/
def events (s : Supply) : List Event :=
  match s.tables with
  | .ok t => [t.validatedEvent]
  | .error _ => []

end Supply

/-- The tables in use, and those kept aside, the first kept first. -/
structure Service where
  tables : Tables
  kept : List Tables := []
  deriving DecidableEq, Repr

namespace Service

/-- What can be asked of the service. To resolve a request it is read first, and only a
    well-formed one is answered. Tables kept aside are called by their index. -/
inductive Step where
  | lookUp (postalCode : String) (houseNumber : Option String)
  | resolve (postalCode : String) (houseNumber : Option String)
  | overview
  | replace (supply : Supply)
  | keep
  | dump (index : Nat)
  | inspect (index : Nat) (postalCode : String)
  | compare (a b : Nat)
  | restore (index : Nat)
  deriving DecidableEq, Repr

/-- What the service answers. Where no tables are kept under an index it says so. -/
inductive Answer where
  | outcome (o : Outcome)
  | overview (rows : List OverviewRow)
  | replaced
  | refused (e : SupplyError)
  | kept (index : Nat)
  | tables (t : Tables)
  | inspection (i : Inspection)
  | invalid (reason : ValidationError)
  | equal (same : Bool)
  | unknownIndex
  deriving DecidableEq

/-- The answer of a step. -/
def answer (s : Service) : Step → Answer
  | .lookUp postalCode houseNumber => .outcome (s.tables.lookUp postalCode houseNumber)
  | .resolve postalCode houseNumber => .outcome (s.tables.lookUp postalCode houseNumber)
  | .overview => .overview s.tables.overview
  | .replace supply =>
      match supply.tables with
      | .ok _ => .replaced
      | .error e => .refused e
  | .keep => .kept s.kept.length
  | .dump i => (s.kept[i]?).elim .unknownIndex .tables
  | .inspect i postalCode =>
      match s.kept[i]?, PostalCode.parse postalCode with
      | none, _ => .unknownIndex
      | some _, .error reason => .invalid reason
      | some t, .ok code => .inspection (t.inspect code)
  | .compare a b =>
      match s.kept[a]?, s.kept[b]? with
      | some t, some u => .equal (t = u)
      | _, _ => .unknownIndex
  | .restore i => (s.kept[i]?).elim .unknownIndex fun _ => .replaced

/-- The service after a step. -/
def after (s : Service) : Step → Service
  | .replace supply =>
      match supply.tables with
      | .ok t => { s with tables := t }
      | .error _ => s
  | .keep => { s with kept := s.kept ++ [s.tables] }
  | .restore i => { s with tables := (s.kept[i]?).getD s.tables }
  | _ => s

/-- The events of a step. -/
def events (s : Service) : Step → List Event
  | .lookUp postalCode houseNumber => [s.tables.lookUpEvent postalCode houseNumber]
  | .resolve postalCode houseNumber =>
      match Request.parse postalCode houseNumber with
      | .error _ => []
      | .ok request => [s.tables.resolveEvent request]
  | .replace supply =>
      match supply.tables with
      | .ok t => [t.validatedEvent, .replaced]
      | .error _ => []
  | .restore i => (s.kept[i]?).elim [] fun _ => [.replaced]
  | _ => []

/-- The answers of a run, each with the events of its step. -/
def run (s : Service) : List Step → List (Answer × List Event)
  | [] => []
  | step :: steps => (s.answer step, s.events step) :: (s.after step).run steps

end Service

end WastePass
