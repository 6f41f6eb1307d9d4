import WastePass.Decimal.Shortest
import WastePass.Json.Position
import WastePass.Text.Quoted

/-!
# Faults — why a document is refused, and where

    A fault is either a breach of the notation or a value of the wrong shape. Its
    wording stands in `Fault.message`; an error adds the place.
-/

namespace WastePass.Json

open WastePass.Decimal (Binary64 Scientific)

/-- A number as a document writes it. A whole number of at most sixty-four binary digits is
    kept as it is, any other is rounded. -/
inductive Number where
  | natural (n : Nat)
  | negative (n : Nat)
  | rounded (negative : Bool) (x : Binary64)
  deriving DecidableEq, Repr

/-- The least exponent at which a rounded number is written without one. -/
def leastPlainExponent : Int := -5

/-- The greatest exponent at which a rounded number is written without one. -/
def greatestPlainExponent : Int := 15

/-- An exponent: its sign and at least two digits. -/
def exponentText (e : Int) : String :=
  let digits := toString e.natAbs
  (if e < 0 then "e-" else "e+") ++ (if digits.length < 2 then "0" ++ digits else digits)

/-- A decimal as it is shown: with a point and at least one digit behind it where its
    exponent is small, otherwise one digit before the point and the exponent. -/
def decimalText (s : Scientific) : String :=
  let digits := toString s.digits
  let e : Int := s.power + digits.length - 1
  let whole := (e + 1).toNat
  if leastPlainExponent ≤ e ∧ e ≤ greatestPlainExponent then
    if 0 ≤ s.power then
      digits ++ String.ofList (List.replicate s.power.toNat '0') ++ ".0"
    else if 0 ≤ e then
      String.ofList (digits.toList.take whole) ++ "." ++
        String.ofList (digits.toList.drop whole)
    else
      "0." ++ String.ofList (List.replicate (-e - 1).toNat '0') ++ digits
  else
    match digits.toList with
    | [d] => String.ofList [d] ++ exponentText e
    | d :: ds => String.ofList (d :: '.' :: ds) ++ exponentText e
    | [] => exponentText e

/-- A rounded number as it is shown. -/
def roundedText (x : Binary64) : String :=
  if x.mantissa = 0 then "0.0" else decimalText x.shortest

/-- What stands where something else was expected. -/
inductive Found where
  | null
  | boolean (b : Bool)
  | number (n : Number)
  | text (s : String)
  | list
  | object
  deriving DecidableEq, Repr

namespace Found

/-- How a message names what was found. -/
def describe : Found → String
  | .null => "null"
  | .boolean b => "boolean `" ++ (if b then "true" else "false") ++ "`"
  | .number (.natural n) => "integer `" ++ toString n ++ "`"
  | .number (.negative n) => "integer `-" ++ toString n ++ "`"
  | .number (.rounded negative x) =>
      "floating point `" ++ (if negative then "-" else "") ++ roundedText x ++ "`"
  | .text s => "string " ++ Text.quoted s
  | .list => "sequence"
  | .object => "map"

end Found

/-- Why a document is refused. A list has the wrong length if it ends too early. -/
inductive Fault where
  | endInList
  | endInObject
  | endInText
  | endInValue
  | expectedColon
  | expectedListSeparator
  | expectedObjectSeparator
  | expectedWord
  | expectedValue
  | invalidEscape
  | invalidNumber
  | numberOutOfRange
  | controlInText
  | keyNotText
  | loneSurrogate
  | unfinishedPair
  | trailingComma
  | trailingText
  | wrongType (found : Found) (expected : String)
  | wrongLength (length : Nat) (expected : String)
  | missingField (name : String)
  | duplicateField (name : String)
  | unknownField (name : String) (known : List String)
  | unknownChoice (name : String) (known : List String)
  deriving DecidableEq, Repr

namespace Fault

/-- The names that would have been right. -/
def oneOf (names : List String) : String :=
  "one of " ++ ", ".intercalate (names.map fun n => "`" ++ n ++ "`")

/-- What is reported about a fault. -/
def message : Fault → String
  | .endInList               => "EOF while parsing a list"
  | .endInObject             => "EOF while parsing an object"
  | .endInText               => "EOF while parsing a string"
  | .endInValue              => "EOF while parsing a value"
  | .expectedColon           => "expected `:`"
  | .expectedListSeparator   => "expected `,` or `]`"
  | .expectedObjectSeparator => "expected `,` or `\x7d`"
  | .expectedWord            => "expected ident"
  | .expectedValue           => "expected value"
  | .invalidEscape           => "invalid escape"
  | .invalidNumber           => "invalid number"
  | .numberOutOfRange        => "number out of range"
  | .controlInText           =>
      "control character (\\u0000-\\u001F) found while parsing a string"
  | .keyNotText              => "key must be a string"
  | .loneSurrogate           => "lone leading surrogate in hex escape"
  | .unfinishedPair          => "unexpected end of hex escape"
  | .trailingComma           => "trailing comma"
  | .trailingText            => "trailing characters"
  | .wrongType found expected =>
      "invalid type: " ++ found.describe ++ ", expected " ++ expected
  | .wrongLength length expected =>
      "invalid length " ++ toString length ++ ", expected " ++ expected
  | .missingField name       => "missing field `" ++ name ++ "`"
  | .duplicateField name     => "duplicate field `" ++ name ++ "`"
  | .unknownField name known =>
      "unknown field `" ++ name ++ "`, expected " ++ oneOf known
  | .unknownChoice name known =>
      "unknown variant `" ++ name ++ "`, expected " ++ oneOf known

end Fault

/-- A fault and the place where it shows. -/
structure Error where
  fault : Fault
  position : Position
  deriving DecidableEq, Repr

namespace Error

/-- What is reported about an error. -/
def message (e : Error) : String :=
  e.fault.message ++ " at line " ++ toString e.position.line ++
    " column " ++ toString e.position.column

end Error

end WastePass.Json
