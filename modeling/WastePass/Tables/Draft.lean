import WastePass.Tables.Basic

/-!
# Drafts — a configuration as it was written down, and how it becomes tables

    A configuration is a list of calls, each adding one entry to one of the three
    tables. `Draft.ofCalls` sorts them into the tables, keeping their order;
    `Draft.build` checks the entries in that order and stops at the first fault.
    Entries are kept as given, except that letters become capitals.
-/

namespace WastePass

/-- One entry of a configuration, in the texts it was given as. -/
inductive Call where
  | district (district : District) (ranges : List (String × String))
  | passNumber (district : District) (number : String)
  | containerException (range : String × String) (letters : List String)
  deriving DecidableEq, Repr

namespace Call

/-- A range without any container is an exception that lists no letters. -/
def noContainers (range : String × String) : Call :=
  .containerException range []

end Call

/-- The entries of a configuration, table by table. -/
structure Draft where
  districts : List (District × List (String × String)) := []
  passNumbers : List (District × String) := []
  exceptions : List ((String × String) × List String) := []
  deriving DecidableEq, Repr

namespace Draft

/-- The draft with one more entry at the end of its table. -/
def add (draft : Draft) : Call → Draft
  | .district d ranges => { draft with districts := draft.districts ++ [(d, ranges)] }
  | .passNumber d number => { draft with passNumbers := draft.passNumbers ++ [(d, number)] }
  | .containerException range letters =>
      { draft with exceptions := draft.exceptions ++ [(range, letters)] }

/-- The entries of a list of calls. -/
def ofCalls (calls : List Call) : Draft :=
  calls.foldl add {}

/-- Reads the letters of an exception: exactly two ASCII letters. -/
def buildLetters (text : String) : Except TableFault Letters :=
  match Letters.ofChars? text.toList with
  | some l => .ok l
  | none => .error (.invalidLetters text)

/-- Checks the range table. A district that came before is a fault whatever its ranges
    are. -/
def buildDistricts (seen : List District) :
    List (District × List (String × String)) → Except TableFault (List DistrictRanges)
  | [] => .ok []
  | (d, bounds) :: rest => do
      if d ∈ seen then throw (.duplicateRanges d)
      let ranges ← bounds.mapM fun (start, stop) => Range.ofBounds start stop
      let others ← buildDistricts (d :: seen) rest
      return ⟨d, ranges⟩ :: others

/-- Checks the pass number table. -/
def buildPassNumbers (seen : List District) :
    List (District × String) → Except TableFault (List (District × String))
  | [] => .ok []
  | (d, number) :: rest => do
      if d ∈ seen then throw (.duplicatePassNumber d)
      if Text.allBlank number then throw (.emptyPassNumber d)
      if Text.trim number.toList ≠ number.toList then throw (.paddedPassNumber d)
      let others ← buildPassNumbers (d :: seen) rest
      return (d, number) :: others

/-- Checks one exception, its range first. -/
def buildException (entry : (String × String) × List String) :
    Except TableFault ContainerException := do
  let range ← Range.ofBounds entry.1.1 entry.1.2
  let letters ← entry.2.mapM buildLetters
  return ⟨range, letters⟩

/-- Checks the whole configuration: ranges, then pass numbers, then exceptions. -/
def build (draft : Draft) : Except TableFault Tables := do
  let districts ← buildDistricts [] draft.districts
  let passNumbers ← buildPassNumbers [] draft.passNumbers
  let exceptions ← draft.exceptions.mapM buildException
  return ⟨districts, passNumbers, exceptions⟩

end Draft

/-- The tables that a list of calls configures. -/
def Tables.ofCalls (calls : List Call) : Except TableFault Tables :=
  (Draft.ofCalls calls).build

end WastePass
