import WastePass.Lookup
import WastePass.Text.Quoted

/-!
# Events — what is written to the log

    An event is a value; its line is put together in `line` alone, from a level, the
    part of the program it comes from, a message and named values.
-/

namespace WastePass

/-- How much a log holds. Each level includes those before it. -/
inductive Level where
  | off
  | error
  | warn
  | info
  | debug
  | trace
  deriving DecidableEq, Repr

namespace Level

/-- The place of a level in their order. -/
def rank : Level → Nat
  | .off   => 0
  | .error => 1
  | .warn  => 2
  | .info  => 3
  | .debug => 4
  | .trace => 5

/-- The name of a level in a line of the log. -/
def name : Level → String
  | .off   => "OFF"
  | .error => "ERROR"
  | .warn  => "WARN"
  | .info  => "INFO"
  | .debug => "DEBUG"
  | .trace => "TRACE"

end Level

/-- Something worth a line in the log. -/
inductive Event where
  | opened (path : String)
  | validated (districts passNumbers exceptions : Nat)
  | loaded (source : String) (districts : Nat)
  | replaced
  | rejected (reason : ValidationError)
  | noDistrict (code : PostalCode)
  | noPassNumber (code : PostalCode) (district : District)
  | resolved (code : PostalCode) (pass : Pass)
  deriving DecidableEq, Repr

namespace Event

/-- The level of an event. -/
def level : Event → Level
  | .opened _ | .loaded _ _ | .replaced => .info
  | _ => .debug

/-- The part of the program an event comes from. -/
def target : Event → String
  | .opened _        => "afvalpas_tui"
  | .validated _ _ _ => "afvalpas_core::tables"
  | _                => "afvalpas_core::service"

/-- What an event says. -/
def message : Event → String
  | .opened _         => "logging initialized"
  | .validated _ _ _  => "waste pass tables validated"
  | .loaded _ _       => "loaded waste pass tables"
  | .replaced         => "replaced waste pass tables"
  | .rejected _       => "rejected waste pass request"
  | .noDistrict _     => "no district for postal code"
  | .noPassNumber _ _ => "no pass number for district"
  | .resolved _ _     => "resolved waste pass"

/-- The named values of an event, as they are written. -/
def fields : Event → List (String × String)
  | .opened path => [("path", path)]
  | .validated districts passNumbers exceptions =>
      [("districts", toString districts), ("pass_numbers", toString passNumbers),
       ("container_exceptions", toString exceptions)]
  | .loaded source districts =>
      [("source", Text.quoted source), ("districts", toString districts)]
  | .replaced => []
  | .rejected reason =>
      [("field", Text.quoted reason.field), ("err", reason.message)]
  | .noDistrict code => [("postal_code", code.text)]
  | .noPassNumber code district =>
      [("postal_code", code.text), ("district", district.name)]
  | .resolved code pass =>
      [("postal_code", code.text), ("district", pass.district.name),
       ("pass_number", pass.passNumber),
       ("has_container", if pass.hasContainer then "true" else "false")]

/-- The line of an event in the log. -/
def line (e : Event) : String :=
  e.level.name ++ " " ++ e.target ++ ": " ++ e.message ++
    String.join (e.fields.map fun (key, value) => " " ++ key ++ "=" ++ value)

end Event

namespace Tables

/-- The event of a configuration that has become these tables. -/
def validatedEvent (t : Tables) : Event :=
  .validated t.districts.length t.passNumbers.length t.exceptions.length

/-- The event of answering a request. -/
def resolveEvent (t : Tables) (request : Request) : Event :=
  match t.districtFor request.postalCode with
  | none => .noDistrict request.postalCode
  | some d =>
    match t.passNumberFor d with
    | none => .noPassNumber request.postalCode d
    | some number =>
      .resolved request.postalCode ⟨d, number, t.hasContainer request.postalCode⟩

/-- The event of a lookup. -/
def lookUpEvent (t : Tables) (postalCode : String) (houseNumber : Option String) : Event :=
  match Request.parse postalCode houseNumber with
  | .error reason => .rejected reason
  | .ok request => t.resolveEvent request

end Tables

end WastePass
