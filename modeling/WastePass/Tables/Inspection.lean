import WastePass.Tables.Basic

/-!
# Inspections — everything the tables say about one code

    Unlike a lookup, an inspection asks each table on its own, so it also tells what
    the exceptions say about a code that no district has.
-/

namespace WastePass

/-- What the tables say about a code. Of each exception they say whether it covers the code,
    and whether by its letters there is a container. -/
structure Inspection where
  district : Option District
  passNumber : Option String
  hasContainer : Bool
  exceptions : List (Bool × Bool)
  deriving DecidableEq, Repr

/-- Asks the tables about a code. -/
def Tables.inspect (t : Tables) (code : PostalCode) : Inspection where
  district := t.districtFor code
  passNumber := t.districtFor code >>= t.passNumberFor
  hasContainer := t.hasContainer code
  exceptions := t.exceptions.map fun e => (e.range.contains code, e.hasContainer code.letters)

end WastePass
