import EntityStore.Number.Double

/-!
# Shortest decimals

The decimal text of a double: the fewest digits that read back as the same double, and of those the
nearest.

* `Decimal.shortest` — digits and position of the point;
* `Double.text` — positional notation for decimal exponents from -4 to 15, scientific notation
  beyond.
-/

namespace EntityStore

/-- The decimal number `0.d₁d₂… * 10 ^ point`. -/
structure Decimal where
  digits : List Nat
  point : Int
  deriving DecidableEq, Repr

namespace Decimal

/-- The decimal digits of a number, the most significant first. -/
def digitsOf (n : Nat) : List Nat :=
  (Nat.toDigits 10 n).map fun c => c.toNat - 48

/-- The reals that round to a double, as an interval around `value`, all in the same unit. -/
structure Interval where
  low : Nat
  value : Nat
  high : Nat
  closed : Bool

/-- Whether a point lies in the interval. -/
def Interval.has (i : Interval) (n : Nat) : Bool :=
  if i.closed then i.low ≤ n && n ≤ i.high else i.low < n && n < i.high

/-- The interval of a positive double in units of `2 ^ -1076`. It is wider above than below where
the exponent changes. -/
def Interval.of (d : Double) : Interval :=
  let unit := Nat.pow 2 d.exponent
  let below := if d.fraction == 0 && 1 < d.biased then unit else 2 * unit
  ⟨4 * d.magnitude - below, 4 * d.magnitude, 4 * d.magnitude + 2 * unit, d.fraction % 2 == 0⟩

/-- The multiple of `step` that lies in an interval and is nearest to its value; of two equally near
the even one. -/
def Interval.nearest (i : Interval) (step : Nat) : Option Nat :=
  let q := i.value / step
  let down := q * step
  let up := (q + 1) * step
  match i.has down && 0 < q, i.has up with
  | true, true =>
    if i.value - down < up - i.value then some q
    else if up - i.value < i.value - down then some (q + 1)
    else if q % 2 == 0 then some q else some (q + 1)
  | true, false => some q
  | false, true => some (q + 1)
  | false, false => none

/-- The coarsest of the decimal grids `10 ^ k`, …, `10`, `1` that has a point in the interval, and
that point counted in its steps. -/
def search (i : Interval) : Nat → Option (Nat × Nat)
  | 0 => (i.nearest (Nat.pow 2 1076)).map (·, 0)
  | k + 1 =>
    match i.nearest (Nat.pow 10 (k + 1) * Nat.pow 2 1076) with
    | some q => some (q, k + 1)
    | none => search i k

/-- An interval in units that are `factor` times smaller. -/
def Interval.scale (i : Interval) (factor : Nat) : Interval :=
  ⟨i.low * factor, i.value * factor, i.high * factor, i.closed⟩

/-- The shortest decimal in the interval of a positive double. -/
def shortest (d : Double) : Decimal :=
  let down := if d.biased < 1100 then 343 else 0
  let i := (Interval.of d).scale (Nat.pow 10 down)
  match search i (digitsOf (i.high / Nat.pow 2 1076)).length with
  | some (q, k) =>
    let ds := digitsOf q
    ⟨ds, (ds.length + k : Nat) - (down : Nat)⟩
  | none => ⟨[0], 1⟩

end Decimal

namespace Double

/-- Decimal digits as characters. -/
def digitChars (ds : List Nat) : List Char :=
  ds.map fun n => Char.ofNat (48 + n)

/-- An exponent with its sign and at least two digits. -/
def exponentChars (e : Int) : List Char :=
  let ds := Decimal.digitsOf e.natAbs
  (if e < 0 then '-' else '+') :: digitChars (if ds.length < 2 then 0 :: ds else ds)

/-- A decimal in positional or scientific notation. -/
def decimalChars (m : Decimal) : List Char :=
  let ds := digitChars m.digits
  let n := ds.length
  if m.point < -3 || 16 < m.point then
    let mantissa := match ds with
      | d :: rest => if rest.isEmpty then [d] else d :: '.' :: rest
      | [] => []
    mantissa ++ 'e' :: exponentChars (m.point - 1)
  else if m.point ≤ 0 then
    '0' :: '.' :: List.replicate m.point.natAbs '0' ++ ds
  else
    let whole := m.point.toNat
    if n ≤ whole then ds ++ List.replicate (whole - n) '0' ++ ['.', '0']
    else ds.take whole ++ '.' :: ds.drop whole

/-- The text of a double. -/
def text (d : Double) : String :=
  if d.isNaN then "nan"
  else if d.isInfinite then if d.isNegative then "-inf" else "inf"
  else
    let body := if d.isZero then "0.0" else String.ofList (decimalChars (Decimal.shortest d))
    if d.isNegative then "-" ++ body else body

end Double

end EntityStore
