import WastePass.Text.Utf8

/-!
# UTF-16 — texts as units of sixteen bits

    A unit is a character by itself or one half of a pair. Halves without a partner
    are gaps, and so is a byte left over at the end.
-/

namespace WastePass.Text.Utf16

/-- The order of the two bytes of a unit. -/
inductive Order where
  | littleEndian
  | bigEndian
  deriving DecidableEq, Repr

/-- The unit of two bytes. -/
def unit (order : Order) (a b : UInt8) : Nat :=
  match order with
  | .littleEndian => 256 * b.toNat + a.toNat
  | .bigEndian    => 256 * a.toNat + b.toNat

/-- A unit that only begins a pair. -/
def isLeading (n : Nat) : Bool := 0xD800 ≤ n && n ≤ 0xDBFF

/-- A unit that only ends a pair. -/
def isTrailing (n : Nat) : Bool := 0xDC00 ≤ n && n ≤ 0xDFFF

/-- The character of a pair. -/
def joined (leading trailing : Nat) : Char :=
  Char.ofNat (0x10000 + 1024 * (leading - 0xD800) + (trailing - 0xDC00))

/-- What a unit gives where no pair is open: a character, a gap, or an open pair. -/
def enter (n : Nat) : List (Option Char) × Option Nat :=
  if isLeading n then ([], some n)
  else if isTrailing n then ([none], none)
  else ([some (Char.ofNat n)], none)

/-- What a unit gives after the first half of a pair. -/
def extend (leading n : Nat) : List (Option Char) × Option Nat :=
  if isTrailing n then ([some (joined leading n)], none)
  else
    let (units, next) := enter n
    (none :: units, next)

/-- Reads what follows a pair that may have been left open. -/
def decodeFrom (order : Order) : Option Nat → Bytes → List (Option Char)
  | none, [] => []
  | some _, [] => [none]
  | _, [_] => [none]
  | none, a :: b :: bs =>
    let (units, next) := enter (unit order a b)
    units ++ decodeFrom order next bs
  | some leading, a :: b :: bs =>
    let (units, next) := extend leading (unit order a b)
    units ++ decodeFrom order next bs

/-- The text of any bytes, with a replacement character for each gap. -/
def lenient (order : Order) (bytes : Bytes) : String :=
  String.ofList ((decodeFrom order none bytes).map fun c => c.getD Utf8.replacement)

end WastePass.Text.Utf16
