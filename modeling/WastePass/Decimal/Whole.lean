/-!
# Whole numbers — digits that fit into sixty-four bits

    A numeral is ASCII digits, with a plus sign in front of them if one likes. The
    first character that is wrong decides what is reported: it is no digit, or with it
    the number no longer fits.
-/

namespace WastePass.Decimal

/-- Why a text is no whole number. -/
inductive NumeralFault where
  | empty
  | invalidDigit
  | tooLarge
  deriving DecidableEq, Repr

namespace NumeralFault

/-- What is reported about a fault. -/
def message : NumeralFault → String
  | .empty        => "cannot parse integer from empty string"
  | .invalidDigit => "invalid digit found in string"
  | .tooLarge     => "number too large to fit in target type"

end NumeralFault

/-- The least number that does not fit. -/
def wholeBound : Nat := 0x10000000000000000

/-- Reads digits behind those that gave `n`. -/
def wholeFrom (n : Nat) : List Char → Except NumeralFault Nat
  | [] => .ok n
  | c :: cs =>
    if !c.isDigit then .error .invalidDigit
    else
      let next := 10 * n + (c.toNat - 48)
      if next < wholeBound then wholeFrom next cs else .error .tooLarge

/-- Reads a numeral. -/
def whole : List Char → Except NumeralFault Nat
  | [] => .error .empty
  | ['+'] => .error .invalidDigit
  | '+' :: cs => wholeFrom 0 cs
  | cs => wholeFrom 0 cs

end WastePass.Decimal
