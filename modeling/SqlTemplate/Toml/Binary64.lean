/-!
# Floating-point numbers

A floating-point number is given by the 64 bits of its binary encoding. A decimal is read as the
nearest number, a tie going to the one whose last bit is zero.
-/

namespace SqlTemplate.Toml

structure Binary64 where
  bits : UInt64
  deriving DecidableEq

namespace Binary64

def signBit : Nat := 1 <<< 63

/-- The bits of infinity. Those of every finite magnitude are smaller, those of a NaN greater. -/
def infinityBits : Nat := 0x7FF <<< 52

def ofMagnitude (negative : Bool) (magnitude : Nat) : Binary64 :=
  ⟨UInt64.ofNat (if negative then signBit + magnitude else magnitude)⟩

def infinity (negative : Bool) : Binary64 :=
  ofMagnitude negative infinityBits

def nan : Binary64 :=
  ofMagnitude false (infinityBits + (1 <<< 51))

/-- A quotient rounded to the nearest natural number, a tie going to the even one. -/
def roundedQuotient (numerator denominator : Nat) : Nat :=
  let quotient := numerator / denominator
  let twice := 2 * (numerator % denominator)
  if twice < denominator then quotient
  else if denominator < twice then quotient + 1
  else quotient + quotient % 2

/-- The exponent `k` with `2 ^ k ≤ numerator / denominator < 2 ^ (k + 1)`. -/
def binaryExponent (numerator denominator : Nat) : Int :=
  let k : Int := numerator.log2 - denominator.log2
  if numerator <<< (-k).toNat < denominator <<< k.toNat then k - 1 else k

/-- The bits of the magnitude nearest to a positive quotient. The numbers near the quotient are
the multiples of `2 ^ unit`, and the bits of the multiples are consecutive, so that a multiple
rounded up to the next power of two, or to infinity, still has the right bits. -/
def nearestMagnitude (numerator denominator : Nat) : Nat :=
  let unit := max (binaryExponent numerator denominator - 52) (-1074)
  let multiple :=
    roundedQuotient (numerator <<< (-unit).toNat) (denominator <<< unit.toNat)
  min (((unit + 1074).toNat <<< 52) + multiple) infinityBits

/-- The bits of the magnitude nearest to `coefficient * 10 ^ exponent`. With the decimal point put
before the first digit of the coefficient, no finite number reaches an exponent of 310, and every
number with an exponent of -330 is nearest to zero. -/
def decimalMagnitude (coefficient : Nat) (exponent : Int) : Nat :=
  let size := (Nat.toDigits 10 coefficient).length + exponent
  if coefficient = 0 ∨ size < -330 then 0
  else if 310 < size then infinityBits
  else nearestMagnitude (coefficient * Nat.pow 10 exponent.toNat) (Nat.pow 10 (-exponent).toNat)

def ofDecimal (negative : Bool) (coefficient : Nat) (exponent : Int) : Binary64 :=
  ofMagnitude negative (decimalMagnitude coefficient exponent)

example : ofDecimal false 15 (-1) = ⟨0x3FF8000000000000⟩ := by decide +kernel

/-- A tie goes to the number whose last bit is zero. -/
example : ofDecimal false 9007199254740993 0 = ⟨0x4340000000000000⟩ := by decide +kernel

example : nearestMagnitude 5 (Nat.pow 10 324) = 1 := by decide +kernel

example : ofDecimal false 2 308 = infinity false := by decide +kernel

end Binary64

end SqlTemplate.Toml
