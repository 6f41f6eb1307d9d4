import WastePass.Text.Blank
import WastePass.Text.FromText

/-!
# Postal codes — four digits and two letters, and the house number beside them

    A postal code is its number, below ten thousand, and a pair of letters. Its text
    always shows four digits, zeros included, and capitals, so the text and the code
    determine each other. `PostalCode.parse` reads six characters once the blanks are
    left out and names the first thing that is wrong.
-/

namespace WastePass

/-- What can be wrong with the texts of a request. -/
inductive ValidationError where
  | postalCodeRequired
  | postalCodeLength
  | postalCodeNumber
  | postalCodeLetters
  | houseNumber
  deriving DecidableEq, Repr

namespace ValidationError

/-- The field of the request that the error is about. -/
def field : ValidationError → String
  | .houseNumber => "house_number"
  | _            => "postal_code"

/-- What the user is told. -/
def message : ValidationError → String
  | .postalCodeRequired => "Postal code is required"
  | .postalCodeLength   => "Postal code must be 6 characters (4 numbers + 2 letters)"
  | .postalCodeNumber   => "First 4 characters must be numbers"
  | .postalCodeLetters  => "Last 2 characters must be letters"
  | .houseNumber        => "House number must be a number"

end ValidationError

/-- The four-digit part of a postal code. -/
abbrev PostalNumber := Fin 10000

namespace PostalNumber

/-- The value of an ASCII digit. -/
def digit? (c : Char) : Option (Fin 10) :=
  if h : 48 ≤ c.toNat ∧ c.toNat ≤ 57 then some ⟨c.toNat - 48, by omega⟩ else none

/-- The ASCII digit of a value. -/
def digitChar (d : Fin 10) : Char :=
  Char.ofNat (48 + d.val)

/-- The number that four digits write. -/
def ofDigits (a b c d : Fin 10) : PostalNumber :=
  ⟨1000 * a.val + 100 * b.val + 10 * c.val + d.val, by omega⟩

/-- Reads exactly four ASCII digits. -/
def ofChars? : List Char → Option PostalNumber
  | [a, b, c, d] => do
      let a ← digit? a
      let b ← digit? b
      let c ← digit? c
      let d ← digit? d
      return ofDigits a b c d
  | _ => none

/-- The four digits of a number, leading zeros included. -/
def chars (n : PostalNumber) : List Char :=
  [digitChar ⟨n.val / 1000, by omega⟩,
   digitChar ⟨n.val / 100 % 10, by omega⟩,
   digitChar ⟨n.val / 10 % 10, by omega⟩,
   digitChar ⟨n.val % 10, by omega⟩]

/-- The four digits of a number as a text. -/
def text (n : PostalNumber) : String :=
  String.ofList n.chars

end PostalNumber

/-- The two letters of a postal code, by their places in the alphabet. -/
structure Letters where
  first : Fin 26
  second : Fin 26
  deriving DecidableEq, Repr

namespace Letters

/-- The place of an ASCII letter in the alphabet, in either case. -/
def place? (c : Char) : Option (Fin 26) :=
  if h : 65 ≤ c.toNat ∧ c.toNat ≤ 90 then some ⟨c.toNat - 65, by omega⟩
  else if h : 97 ≤ c.toNat ∧ c.toNat ≤ 122 then some ⟨c.toNat - 97, by omega⟩
  else none

/-- The capital at a place in the alphabet. -/
def capital (i : Fin 26) : Char :=
  Char.ofNat (65 + i.val)

/-- Reads exactly two ASCII letters, in either case. -/
def ofChars? : List Char → Option Letters
  | [a, b] => do
      let a ← place? a
      let b ← place? b
      return ⟨a, b⟩
  | _ => none

/-- The letters as capitals. -/
def chars (l : Letters) : List Char :=
  [capital l.first, capital l.second]

/-- The letters as a text of capitals. -/
def text (l : Letters) : String :=
  String.ofList l.chars

end Letters

/-- A postal code. -/
structure PostalCode where
  number : PostalNumber
  letters : Letters
  deriving DecidableEq, Repr

namespace PostalCode

/-- Reads a postal code, blanks anywhere and letters in either case. The first of these
    that fails names the error: there is something, it is six characters long, the
    first four are digits, the last two are letters. -/
def parse (raw : String) : Except ValidationError PostalCode :=
  match Text.withoutBlanks raw with
  | [] => .error .postalCodeRequired
  | [a, b, c, d, x, y] =>
    match PostalNumber.ofChars? [a, b, c, d] with
    | none => .error .postalCodeNumber
    | some number =>
      match Letters.ofChars? [x, y] with
      | none => .error .postalCodeLetters
      | some letters => .ok ⟨number, letters⟩
  | _ => .error .postalCodeLength

instance : FromText PostalCode ValidationError where
  fromText := parse

/-- The code as it is shown: the number, a space, the letters. -/
def text (code : PostalCode) : String :=
  code.number.text ++ " " ++ code.letters.text

end PostalCode

/-- A house number: one ASCII digit or more, kept as given. -/
structure HouseNumber where
  text : String
  isNumber : text ≠ "" ∧ text.toList.all Char.isDigit = true
  deriving DecidableEq

namespace HouseNumber

/-- Reads a house number. Blanks are not allowed, not even around it. -/
def parse (raw : String) : Except ValidationError HouseNumber :=
  if h : raw ≠ "" ∧ raw.toList.all Char.isDigit = true then .ok ⟨raw, h⟩
  else .error .houseNumber

end HouseNumber

/-- A request that has been read. No answer depends on its house number. -/
structure Request where
  postalCode : PostalCode
  houseNumber : Option HouseNumber
  deriving DecidableEq

namespace Request

/-- Reads a request. The postal code is read first, so its errors come first. -/
def parse (postalCode : String) (houseNumber : Option String) :
    Except ValidationError Request := do
  let code ← PostalCode.parse postalCode
  match houseNumber with
  | none => return ⟨code, none⟩
  | some raw =>
    let number ← HouseNumber.parse raw
    return ⟨code, some number⟩

end Request

end WastePass
