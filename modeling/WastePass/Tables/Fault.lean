import WastePass.PostalCode
import WastePass.District
import WastePass.Text.Quoted

/-!
# Table faults — why a configuration is refused

    Each fault is a cause; its wording stands in `message` alone.
-/

namespace WastePass

/-- What can be wrong with a configuration. -/
inductive TableFault where
  | invalidBound (text : String)
  | invertedRange (start stop : PostalNumber)
  | duplicateRanges (district : District)
  | duplicatePassNumber (district : District)
  | emptyPassNumber (district : District)
  | paddedPassNumber (district : District)
  | invalidLetters (text : String)
  | unknownDistrict (text : String)
  deriving DecidableEq, Repr

namespace TableFault

/-- What is reported about a fault. -/
def message : TableFault → String
  | .invalidBound text =>
      "Range bound " ++ Text.quoted text ++ " must be exactly 4 digits"
  | .invertedRange start stop =>
      "Range " ++ start.text ++ "..=" ++ stop.text ++ " starts after it ends"
  | .duplicateRanges d =>
      "District " ++ d.name ++ " has more than one range entry"
  | .duplicatePassNumber d =>
      "District " ++ d.name ++ " has more than one pass number"
  | .emptyPassNumber d =>
      "District " ++ d.name ++ " has an empty pass number"
  | .paddedPassNumber d =>
      "Pass number of district " ++ d.name ++ " has surrounding whitespace"
  | .invalidLetters text =>
      "Container exception letters " ++ Text.quoted text ++ " must be exactly 2 letters"
  | .unknownDistrict text =>
      District.unknownMessage text

end TableFault

end WastePass
