import WastePass.Decimal.Binary64

/-!
# Shortest decimals — the fewest digits that read back as the same number

    Every decimal nearer to a number than its neighbours are reads back as it; so does
    one halfway to a neighbour if the mantissa is even. Of the powers of ten, the
    greatest that has a multiple among them gives the fewest digits, and of its
    multiples on either side of the number the nearer is taken.
-/

namespace WastePass.Decimal

/-- The decimal `digits * 10 ^ power`. -/
structure Scientific where
  digits : Nat
  power : Int
  deriving DecidableEq, Repr

namespace Binary64

/-- Numbers are compared in quarters of their last binary digit: `quarters x j` is the
    fraction `2 ^ (x.exponent - 2) / 10 ^ j`. -/
def quarters (x : Binary64) (j : Int) : Nat × Nat :=
  let e := x.exponent - 2
  (Nat.pow 2 e.toNat * Nat.pow 10 (-j).toNat, Nat.pow 2 (-e).toNat * Nat.pow 10 j.toNat)

/-- Where the decimals that read back as `x` begin and end, in quarters. Below a power
    of two the numbers are twice as dense. -/
def readsBackFrom (x : Binary64) : Nat × Nat :=
  let below := if x.mantissa = leastMantissa ∧ leastExponent < x.exponent then 1 else 2
  (4 * x.mantissa - below, 4 * x.mantissa + 2)

/-- The decimal `c * 10 ^ j` reads back as `x`. -/
def readsBack (x : Binary64) (j : Int) (c : Nat) : Bool :=
  let (p, q) := x.quarters j
  let (low, high) := x.readsBackFrom
  if x.mantissa % 2 = 0 then low * p ≤ c * q && c * q ≤ high * p
  else low * p < c * q && c * q < high * p

/-- The multiple of `10 ^ j` that reads back as `x` and is nearest to it, if one of its
    two neighbours among the multiples does. -/
def onGrid (x : Binary64) (j : Int) : Option Scientific :=
  let (p, q) := x.quarters j
  let value := 4 * x.mantissa * p
  let c := value / q
  let below := c ≠ 0 && x.readsBack j c
  let above := x.readsBack j (c + 1)
  let nearer := if 2 * (value % q) ≤ q then c else c + 1
  match below, above with
  | true,  true  => some ⟨nearer, j⟩
  | true,  false => some ⟨c, j⟩
  | false, true  => some ⟨c + 1, j⟩
  | false, false => none

/-- The powers of ten to try, the greatest first. -/
def grids : List Int :=
  (List.range 700).map fun (i : Nat) => 310 - (i : Int)

/-- The shortest decimal that reads back as the number. -/
def shortest (x : Binary64) : Scientific :=
  (grids.findSome? x.onGrid).getD ⟨0, 0⟩

end Binary64

end WastePass.Decimal
