/-!
# Binary64 — numbers with fifty-three binary digits

    A finite binary64 number without its sign is a whole number below `2 ^ 53` times a
    power of two. `nearest` takes a fraction to the number next to it, a tie to the
    even one, and is `none` where the result is beyond the greatest number. Products
    and quotients are those of the fractions, rounded once.
-/

namespace WastePass.Decimal

/-- The number `mantissa * 2 ^ exponent`. -/
structure Binary64 where
  mantissa : Nat
  exponent : Int
  deriving DecidableEq, Repr

/-- The whole number nearest to `num / den`, a tie to the even one. -/
def roundHalfEven (num den : Nat) : Nat :=
  let q := num / den
  let r := num % den
  if 2 * r < den then q
  else if den < 2 * r then q + 1
  else if q % 2 = 0 then q else q + 1

namespace Binary64

/-- The number that mantissas stay below, `2 ^ 53`. -/
def mantissaBound : Nat := 0x20000000000000

/-- The least mantissa that takes all its digits, `2 ^ 52`. -/
def leastMantissa : Nat := 0x10000000000000

/-- The least exponent, that of the numbers nearest to zero. -/
def leastExponent : Int := -1074

/-- The exponent of the greatest numbers. -/
def greatestExponent : Int := 971

/-- Zero. -/
def zero : Binary64 := ⟨0, leastExponent⟩

/-- The fraction `num / den` in units of `2 ^ e`. -/
def inUnits (num den : Nat) (e : Int) : Nat × Nat :=
  (num * Nat.pow 2 (-e).toNat, den * Nat.pow 2 e.toNat)

/-- The exponent at which `num / den` has fifty-three binary digits, or the least. -/
def exponentOf (num den : Nat) : Int :=
  let low := (num.log2 : Int) - den.log2 - 53
  let (n, d) := inUnits num den low
  max leastExponent (if n / d < mantissaBound then low else low + 1)

/-- The number nearest to `num / den`, if it is not too great. -/
def nearest (num den : Nat) : Option Binary64 :=
  if num = 0 then some zero
  else
    let e := exponentOf num den
    let (n, d) := inUnits num den e
    let m := roundHalfEven n d
    let result : Binary64 := if m = mantissaBound then ⟨leastMantissa, e + 1⟩ else ⟨m, e⟩
    if result.exponent ≤ greatestExponent then some result else none

/-- The number as a fraction. -/
def fraction (x : Binary64) : Nat × Nat :=
  (x.mantissa * Nat.pow 2 x.exponent.toNat, Nat.pow 2 (-x.exponent).toNat)

/-- The product, rounded. -/
def mul (x y : Binary64) : Option Binary64 :=
  nearest (x.fraction.1 * y.fraction.1) (x.fraction.2 * y.fraction.2)

/-- The quotient, rounded. -/
def div (x y : Binary64) : Option Binary64 :=
  nearest (x.fraction.1 * y.fraction.2) (x.fraction.2 * y.fraction.1)

/-- The number nearest to a power of ten. -/
def powerOfTen (n : Nat) : Option Binary64 :=
  nearest (Nat.pow 10 n) 1

/-- The greatest power of ten that is a number of its own. -/
def greatestPower : Nat := 308

/-- Divides by the greatest power of ten until what is left to divide by is no
    greater, and then by that. A quotient of zero stays zero. -/
def divPowerOfTen (x : Binary64) (n : Nat) : Option Binary64 :=
  if _h : n ≤ greatestPower then do x.div (← powerOfTen n)
  else if x.mantissa = 0 then some x
  else do
    let y ← x.div (← powerOfTen greatestPower)
    y.divPowerOfTen (n - greatestPower)
termination_by n
decreasing_by
  simp only [greatestPower] at *
  omega

/-- Multiplies by a power of ten. Beyond the greatest power only zero stays a number. -/
def mulPowerOfTen (x : Binary64) (n : Nat) : Option Binary64 :=
  if n ≤ greatestPower then do x.mul (← powerOfTen n)
  else if x.mantissa = 0 then some x
  else none

/-- The number for `significand * 10 ^ exponent`: the significand is rounded first, then
    its product or quotient with the power of ten. -/
def ofScientific (significand : Nat) (exponent : Int) : Option Binary64 := do
  let x ← nearest significand 1
  if 0 ≤ exponent then x.mulPowerOfTen exponent.toNat
  else x.divPowerOfTen (-exponent).toNat

end Binary64

end WastePass.Decimal
