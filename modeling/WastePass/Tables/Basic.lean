import WastePass.Tables.Range

/-!
# Tables — which district a code belongs to, its pass and its containers

    Three ordered lists: the ranges of each district, the pass number of each district
    and the ranges where containers are missing. Where entries overlap, the one that
    stands first decides.
-/

namespace WastePass

/-- The ranges that belong to one district, in the order they were configured. -/
structure DistrictRanges where
  district : District
  ranges : List Range
  deriving DecidableEq, Repr

/-- A range where containers are missing, for the letters listed or, if there are none, for
    all. -/
structure ContainerException where
  range : Range
  letters : List Letters
  deriving DecidableEq, Repr

namespace ContainerException

/-- An address with these letters inside the range has a container. -/
def hasContainer (e : ContainerException) (letters : Letters) : Bool :=
  !e.letters.isEmpty && !e.letters.contains letters

end ContainerException

/-- The tables that answer a lookup. -/
structure Tables where
  districts : List DistrictRanges
  passNumbers : List (District × String)
  exceptions : List ContainerException
  deriving DecidableEq, Repr

namespace Tables

/-- The first district with a range that contains the code. -/
def districtFor (t : Tables) (code : PostalCode) : Option District :=
  (t.districts.find? fun entry => entry.ranges.any (·.contains code)).map (·.district)

/-- The pass number of a district. -/
def passNumberFor (t : Tables) (d : District) : Option String :=
  (t.passNumbers.find? fun entry => entry.1 = d).map (·.2)

/-- An address has a container unless the first exception that covers its number says
    otherwise. -/
def hasContainer (t : Tables) (code : PostalCode) : Bool :=
  match t.exceptions.find? fun e => e.range.contains code with
  | none => true
  | some e => e.hasContainer code.letters

end Tables

end WastePass
