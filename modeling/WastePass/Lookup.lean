import WastePass.Tables.Basic

/-!
# Lookups — from a request to a waste pass

    A lookup reads its texts, finds the district, then the pass number, and last asks
    for containers. It ends with a pass or with the first step that found nothing.
-/

namespace WastePass

/-- The pass that an address gets: the district it is for, its number, and whether the address
    has a container on its street. -/
structure Pass where
  district : District
  passNumber : String
  hasContainer : Bool
  deriving DecidableEq, Repr

/-- The step of a lookup that found nothing. -/
inductive Stage where
  | district
  | passNumber
  deriving DecidableEq, Repr

namespace Stage

/-- The name of what was not found. -/
def name : Stage → String
  | .district   => "District"
  | .passNumber => "Pass number"

end Stage

/-- Why a lookup gives no pass. -/
inductive LookupError where
  | invalid (reason : ValidationError)
  | notFound (stage : Stage)
  deriving DecidableEq, Repr

namespace LookupError

/-- What the user is told. -/
def message : LookupError → String
  | .invalid reason => reason.message
  | .notFound stage => stage.name ++ " not found"

end LookupError

/-- How a lookup ends. -/
abbrev Outcome := Except LookupError Pass

instance : DecidableEq Outcome := fun
  | .error a, .error b =>
      if h : a = b then .isTrue (h ▸ rfl) else .isFalse fun e => h (by injection e)
  | .ok a, .ok b =>
      if h : a = b then .isTrue (h ▸ rfl) else .isFalse fun e => h (by injection e)
  | .error _, .ok _ => .isFalse nofun
  | .ok _, .error _ => .isFalse nofun

namespace Tables

/-- Answers a request that has been read. -/
def resolve (t : Tables) (request : Request) : Outcome :=
  match t.districtFor request.postalCode with
  | none => .error (.notFound .district)
  | some d =>
    match t.passNumberFor d with
    | none => .error (.notFound .passNumber)
    | some number => .ok ⟨d, number, t.hasContainer request.postalCode⟩

/-- Reads the texts of a request and answers it. -/
def lookUp (t : Tables) (postalCode : String) (houseNumber : Option String) : Outcome :=
  match Request.parse postalCode houseNumber with
  | .error reason => .error (.invalid reason)
  | .ok request => t.resolve request

end Tables

end WastePass
