import WastePass.Tables.Fault

/-!
# Ranges — the numbers from one postal number to another

    A range holds its bounds and everything between them. That it does not start after
    it ends is part of the type, so a range that exists is never empty.
-/

namespace WastePass

/-- The postal numbers from `start` to `stop`, both included. -/
structure Range where
  start : PostalNumber
  stop : PostalNumber
  start_le_stop : start ≤ stop
  deriving DecidableEq, Repr

namespace Range

/-- Reads a bound: exactly four ASCII digits. -/
def bound (text : String) : Except TableFault PostalNumber :=
  match PostalNumber.ofChars? text.toList with
  | some n => .ok n
  | none => .error (.invalidBound text)

/-- Reads a range, the start first. -/
def ofBounds (start stop : String) : Except TableFault Range := do
  let first ← bound start
  let last ← bound stop
  if h : first ≤ last then return ⟨first, last, h⟩
  else throw (.invertedRange first last)

/-- A number lies in the range. -/
def covers (r : Range) (n : PostalNumber) : Bool :=
  r.start ≤ n && n ≤ r.stop

/-- A postal code lies in the range when its number does. -/
def contains (r : Range) (code : PostalCode) : Bool :=
  r.covers code.number

/-- The range as it is shown: both bounds, or the one number it consists of. -/
def text (r : Range) : String :=
  if r.start = r.stop then r.start.text else r.start.text ++ "-" ++ r.stop.text

end Range

end WastePass
