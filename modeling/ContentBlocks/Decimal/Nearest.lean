/-!
# The nearest binary number

The double that a fraction is rounded to: the nearest one, and of two equally near ones the even
one.  `nearest` works on natural numbers and yields the bits; `ofDecimal` is the reading of
decimals.
-/

namespace ContentBlocks.Decimal

/-- A quotient rounded to the nearest whole number, a half to the even neighbour. -/
def roundDiv (num den : Nat) : Nat :=
  let below := num / den
  let rest := num % den
  if 2 * rest > den || (2 * rest == den && below % 2 == 1) then below + 1 else below

/-- The exponent of the power of two at or below a positive fraction. -/
def binaryOrder (num den : Nat) : Int :=
  let d : Int := (Nat.log2 num : Int) - Nat.log2 den
  if num * Nat.pow 2 (-d).toNat ≥ den * Nat.pow 2 d.toNat then d else d - 1

/-- The bits of the double nearest to a fraction; those of infinity above the largest one. -/
def nearest (num den : Nat) : Nat :=
  if num = 0 then 0
  else
    let q := max (binaryOrder num den - 52) (-1074)
    let m := roundDiv (num * Nat.pow 2 (-q).toNat) (den * Nat.pow 2 q.toNat)
    let bits := if m < Nat.pow 2 52 then m else (q + 1074).toNat * Nat.pow 2 52 + m
    min bits (2047 * Nat.pow 2 52)

/-- The double nearest to `digits · 10 ^ exponent`.  Exponents far beyond the range are not worked
out. -/
def ofDecimal (negative : Bool) (digits : Nat) (exponent : Int) : Float :=
  let place : Int := (Nat.log2 digits / 3 : Nat) + exponent
  let bits :=
    if digits = 0 || place < -400 then 0
    else if exponent > 400 then 2047 * Nat.pow 2 52
    else nearest (digits * Nat.pow 10 exponent.toNat) (Nat.pow 10 (-exponent).toNat)
  Float.ofBits (UInt64.ofNat (if negative then bits + Nat.pow 2 63 else bits))

end ContentBlocks.Decimal
