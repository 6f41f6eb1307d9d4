import WastePass.Json.Reader

/-!
# Numbers — digits, a fraction, an exponent

    A whole number of at most sixty-four binary digits is kept exactly. Any other is a
    significand of at most sixty-four binary digits, to which digits are added while
    they fit, and a power of ten; the two are rounded together.
-/

namespace WastePass.Json

open WastePass.Decimal (Binary64)

/-- The greatest significand. -/
def greatestSignificand : Nat := 0xFFFFFFFFFFFFFFFF

/-- The greatest exponent that is read. -/
def greatestExponent : Nat := 0x7FFFFFFF

/-- The value of an ASCII digit. -/
def digitValue? (c : Char) : Option Nat :=
  if c.isDigit then some (c.toNat - 48) else none

/-- Adds digits to a number while it stays within a limit, and gives the digits left. -/
def addDigits (limit n : Nat) : List Nat → Nat × List Nat
  | [] => (n, [])
  | d :: ds => if 10 * n + d ≤ limit then addDigits limit (10 * n + d) ds else (n, d :: ds)

/-- The digits at the front of a text, and the place after them. -/
def digitsFrom : List Char → Position → List Nat × Cursor
  | [], p => ([], ⟨[], p⟩)
  | c :: cs, p =>
    match digitValue? c with
    | none => ([], ⟨c :: cs, p⟩)
    | some d =>
      let (ds, after) := digitsFrom cs (p.after c)
      (d :: ds, after)

namespace Reader

/-- Takes the digits that follow. -/
def digits : Reader (List Nat) := fun c =>
  .ok (digitsFrom c.rest c.position)

/-- The sign of an exponent, if one is written. -/
def exponentSign : Reader Bool := do
  match ← peek with
  | some '+' => do advance; return false
  | some '-' => do advance; return true
  | _ => return false

/-- The number `significand * 10 ^ power`, if it is not too great. -/
def rounded (negative : Bool) (significand : Nat) (power : Int) : Reader Number :=
  match Binary64.ofScientific significand power with
  | some x => return .rounded negative x
  | none => failHere .numberOutOfRange

/-- Reads an exponent whose letter is next, and ends the number with it. An exponent too
    great to be read makes a number zero, or too great. -/
def exponent (negative : Bool) (significand : Nat) (power : Int) : Reader Number := do
  advance
  let down ← exponentSign
  match ← peek with
  | none => failHere .endInValue
  | some c => if !c.isDigit then failNext .invalidNumber
  let before ← get
  let ds ← digits
  match addDigits greatestExponent 0 ds with
  | (e, []) => rounded negative significand (if down then power - e else power + e)
  | (_, left) =>
    if significand ≠ 0 && !down then
      fun _ => .error ⟨.numberOutOfRange,
        ⟨before.position.line, before.position.column + (ds.length - left.length + 1)⟩⟩
    else return .rounded negative Binary64.zero

/-- Reads an exponent if one follows, and ends the number. -/
def optionalExponent (negative : Bool) (significand : Nat) (power : Int) :
    Reader Number := do
  match ← peek with
  | some 'e' | some 'E' => exponent negative significand power
  | _ => rounded negative significand power

/-- Reads a fraction whose point is next, and ends the number. -/
def fraction (negative : Bool) (significand : Nat) (power : Int) : Reader Number := do
  advance
  let ds ← digits
  if ds.isEmpty then
    match ← peek with
    | none => failNext .endInValue
    | some _ => failNext .invalidNumber
  let (all, left) := addDigits greatestSignificand significand ds
  optionalExponent negative all (power - (ds.length - left.length : Nat))

/-- A whole number, kept exactly where sixty-four binary digits hold it with its sign. -/
def wholeNumber (negative : Bool) (n : Nat) : Reader Number :=
  if !negative then return .natural n
  else if n = 0 || 0x8000000000000000 < n then rounded true n 0
  else return .negative n

/-- Reads a number whose sign has been taken. -/
def readNumber (negative : Bool) : Reader Number := do
  let ds ← do
    match ← peek with
    | none => failHere .endInValue
    | some '0' => do
      advance
      match ← peek with
      | some c => if c.isDigit then failNext .invalidNumber else pure [0]
      | none => pure [0]
    | some c => if c.isDigit then digits else failNext .invalidNumber
  let (significand, left) := addDigits greatestSignificand 0 ds
  match ← peek with
  | some '.' => fraction negative significand left.length
  | some 'e' | some 'E' => exponent negative significand left.length
  | _ =>
    if left.isEmpty then wholeNumber negative significand
    else rounded negative significand left.length

/-- Skips an exponent whose letter is next. -/
def skipExponent : Reader Unit := do
  advance
  let _ ← exponentSign
  match ← peek with
  | none => failNext .invalidNumber
  | some c => if !c.isDigit then failNext .invalidNumber
  let _ ← digits

/-- Skips a number whose sign has been taken. Its size does not matter. -/
def skipNumber : Reader Unit := do
  match ← peek with
  | none => failNext .invalidNumber
  | some '0' => do
    advance
    match ← peek with
    | some c => if c.isDigit then failNext .invalidNumber
    | none => pure ()
  | some c => if c.isDigit then let _ ← digits else failNext .invalidNumber
  match ← peek with
  | some '.' => do
    advance
    let ds ← digits
    if ds.isEmpty then failNext .invalidNumber
    match ← peek with
    | some 'e' | some 'E' => skipExponent
    | _ => pure ()
  | some 'e' | some 'E' => skipExponent
  | _ => pure ()

end Reader

end WastePass.Json
