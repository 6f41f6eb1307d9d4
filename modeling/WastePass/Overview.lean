import WastePass.Tables.Basic

/-!
# The overview — every configured district on one row

    The districts of the range table come first, in its order, then those that have a
    pass number only. As no table lists a district twice, every district that is
    configured has exactly one row.
-/

namespace WastePass

/-- One row of the overview: a district, its ranges in the order they were configured, and its
    pass number, if one is configured. -/
structure OverviewRow where
  district : District
  ranges : List Range
  passNumber : Option String
  deriving DecidableEq, Repr

namespace Tables

/-- The rows of the districts that have ranges. -/
def rangeRows (t : Tables) : List OverviewRow :=
  t.districts.map fun entry =>
    ⟨entry.district, entry.ranges, t.passNumberFor entry.district⟩

/-- Adds a row for a district with a pass number, unless it has one. -/
def addPassRow (rows : List OverviewRow) (entry : District × String) : List OverviewRow :=
  if rows.all fun row => row.district ≠ entry.1 then rows ++ [⟨entry.1, [], some entry.2⟩]
  else rows

/-- Every configured district with its ranges and its pass number. -/
def overview (t : Tables) : List OverviewRow :=
  t.passNumbers.foldl addPassRow t.rangeRows

end Tables

/-- The ranges of a row as they are shown. -/
def rangesLabel (ranges : List Range) : String :=
  if ranges.isEmpty then "–" else ", ".intercalate (ranges.map Range.text)

end WastePass
