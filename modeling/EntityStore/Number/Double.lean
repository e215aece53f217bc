/-!
# Doubles

A double is the 64 bits of a binary64 number: a sign, eleven bits of exponent and 52 bits of
fraction. Comparison and rounding are defined on the bits by exact arithmetic.

* `Double.magnitude` — the absolute value of a finite double as `mantissa * 2 ^ exponent`;
* `Double.equals` — numeric equality: the two zeros are equal, and not-a-number equals nothing;
* `Double.round` — the double nearest to a fraction, ties to the even neighbour;
* `Double.add`, `Double.mul` — exact sum and product, then rounded.
-/

namespace EntityStore

/-- A binary64 number, by its bits. -/
structure Double where
  bits : UInt64
  deriving DecidableEq, Hashable, Repr

namespace Double

/-! ### Parts -/

/-- Whether the sign bit is set. -/
def isNegative (d : Double) : Bool :=
  Nat.pow 2 63 ≤ d.bits.toNat

/-- The eleven bits of the exponent. -/
def biased (d : Double) : Nat :=
  d.bits.toNat / Nat.pow 2 52 % Nat.pow 2 11

/-- The 52 bits of the fraction. -/
def fraction (d : Double) : Nat :=
  d.bits.toNat % Nat.pow 2 52

/-- Whether `d` is not a number. -/
def isNaN (d : Double) : Bool :=
  d.biased == 2047 && d.fraction != 0

/-- Whether `d` is one of the infinities. -/
def isInfinite (d : Double) : Bool :=
  d.biased == 2047 && d.fraction == 0

/-- Whether `d` is one of the zeros. -/
def isZero (d : Double) : Bool :=
  d.biased == 0 && d.fraction == 0

/-- The double with a given sign, exponent bits and fraction bits. -/
def assemble (negative : Bool) (biased fraction : Nat) : Double :=
  ⟨UInt64.ofNat ((if negative then Nat.pow 2 63 else 0) + biased * Nat.pow 2 52 + fraction)⟩

/-- The not-a-number that is written for all of them. -/
def nan : Double := assemble false 2047 (Nat.pow 2 51)

/-- The infinity of a sign. -/
def infinity (negative : Bool) : Double := assemble negative 2047 0

/-- The zero of a sign. -/
def zero (negative : Bool) : Double := assemble negative 0 0

/-- The double with the opposite sign. -/
def neg (d : Double) : Double :=
  assemble (!d.isNegative) d.biased d.fraction

/-- The double, with one representative for all that are not numbers. -/
def canonical (d : Double) : Double :=
  if d.isNaN then nan else d

/-- The integer `m` of the magnitude `m * 2 ^ (e - 1074)`. -/
def mantissa (d : Double) : Nat :=
  if d.biased == 0 then d.fraction else Nat.pow 2 52 + d.fraction

/-- The exponent `e` of the magnitude `m * 2 ^ (e - 1074)`. -/
def exponent (d : Double) : Nat :=
  d.biased - 1

/-- The absolute value of a finite double in units of `2 ^ -1074`. -/
def magnitude (d : Double) : Nat :=
  d.mantissa * Nat.pow 2 d.exponent

/-- The value of a finite double in units of `2 ^ -1074`. -/
def scaled (d : Double) : Int :=
  if d.isNegative then -(d.magnitude : Int) else d.magnitude

/-! ### Comparison -/

/-- Numeric equality. -/
def equals (a b : Double) : Bool :=
  !a.isNaN && !b.isNaN && (a.bits == b.bits || (a.isZero && b.isZero))

/-- Numeric equality, or the same bits. -/
def alike (a b : Double) : Bool :=
  a.bits == b.bits || equals a b

/-- Whether a finite double equals an integer. -/
def equalsInt (d : Double) (n : Int) : Bool :=
  d.biased != 2047 && d.scaled == n * (Nat.pow 2 1074 : Nat)

/-! ### Rounding -/

/-- The quotient of two numbers, rounded to the nearest integer and to the even one of two. -/
def divideToEven (num den : Nat) : Nat :=
  let q := num / den
  let r := num % den
  if 2 * r < den || (2 * r == den && q % 2 == 0) then q else q + 1

/-- The number of binary digits. -/
def binaryDigits (n : Nat) : Nat :=
  if n == 0 then 0 else n.log2 + 1

/-- The double nearest to `num / den`, where the fraction is counted in units of `2 ^ -1074`. -/
def roundScaled (negative : Bool) (num den : Nat) : Double :=
  let shift := binaryDigits (num / den) - 53
  let m := divideToEven num (den * Nat.pow 2 shift)
  let carry := m == Nat.pow 2 53
  let m := if carry then Nat.pow 2 52 else m
  let shift := if carry then shift + 1 else shift
  if m < Nat.pow 2 52 then assemble negative 0 m
  else if 2046 ≤ shift then infinity negative
  else assemble negative (shift + 1) (m - Nat.pow 2 52)

/-- The double nearest to the fraction `num / den`. -/
def round (negative : Bool) (num den : Nat) : Double :=
  roundScaled negative (num * Nat.pow 2 1074) den

/-- The double nearest to an integer. -/
def ofInt (n : Int) : Double :=
  round (n < 0) n.natAbs 1

/-- The double nearest to a count of units of `2 ^ -1074`. A zero takes the given sign. -/
def ofScaled (zeroNegative : Bool) (n : Int) : Double :=
  if n == 0 then zero zeroNegative else roundScaled (n < 0) n.natAbs 1

/-! ### Arithmetic -/

/-- The sum of two doubles. -/
def add (a b : Double) : Double :=
  if a.isNaN || b.isNaN then nan
  else if a.isInfinite then
    if b.isInfinite && a.isNegative != b.isNegative then nan else a
  else if b.isInfinite then b
  else ofScaled (a.isNegative && b.isNegative) (a.scaled + b.scaled)

/-- The product of two doubles. -/
def mul (a b : Double) : Double :=
  let negative := a.isNegative != b.isNegative
  if a.isNaN || b.isNaN then nan
  else if a.isInfinite || b.isInfinite then
    if a.isZero || b.isZero then nan else infinity negative
  else if a.isZero || b.isZero then zero negative
  else roundScaled negative (a.magnitude * b.magnitude) (Nat.pow 2 1074)

end Double

end EntityStore
