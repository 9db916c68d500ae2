import BridgeNames.Decimal.Binary

/-!
# The shortest decimal that reads back

Every real number closer to a value than to its neighbours in the format reads back as that value.
Those numbers form an interval; its two ends, halfway to the neighbours, belong to it when the
significand is even, since reading rounds a tie to even. Among the decimals `digits · 10 ^ power`
in the interval, `shortest` takes one on the coarsest decimal grid that has any, which has the
fewest digits, and on that grid the one nearest to the value, the larger of two at the same
distance.

The value and both ends are whole multiples of a quarter of the value's last binary place. A
multiple of `2 ^ unit` is a whole number if `unit` is not negative, and a multiple of `10 ^ unit`
if it is, so the interval is written with natural numbers in a unit that is a power of ten.
-/

namespace BridgeNames.Decimal

/-- A decimal `digits · 10 ^ power`. -/
structure Scaled where
  digits : Nat
  power : Int
  deriving DecidableEq

/-- The numbers that read back as a value, in units of `10 ^ power`. -/
structure Interval where
  low : Nat
  value : Nat
  high : Nat
  power : Int
  /-- The ends belong to the interval. -/
  closed : Bool

namespace Interval

/-- The interval of a value: from half of the gap below it to half of the gap above it. -/
def ofMagnitude (m : Magnitude) : Interval :=
  let unit := m.exponent - 2
  let factor := Nat.pow 2 unit.toNat * Nat.pow 5 (-unit).toNat
  { low := (4 * m.significand - if m.isLowest then 1 else 2) * factor
    value := 4 * m.significand * factor
    high := (4 * m.significand + 2) * factor
    power := min unit 0
    closed := m.significand % 2 == 0 }

/-- The number lies in the interval. -/
def contains (i : Interval) (x : Nat) : Bool :=
  if i.closed then i.low ≤ x && x ≤ i.high else i.low < x && x < i.high

/-- The multiple of `step` in the interval that is nearest to the value, as its factor; of two at
the same distance, the larger. Only the two neighbours of the value can be nearest. -/
def nearestMultiple? (i : Interval) (step : Nat) : Option Nat :=
  let below := i.value / step
  let above := below + 1
  match i.contains (below * step), i.contains (above * step) with
  | true, true => some (if 2 * (i.value - below * step) < step then below else above)
  | true, false => some below
  | false, true => some above
  | false, false => none

/-- The decimal nearest to the value on the coarsest grid that has any in the interval, among the
grids of `10 ^ places` units and finer. On the finest of them the value lies itself. -/
def coarsest (i : Interval) : Nat → Scaled
  | 0 => ⟨i.value, i.power⟩
  | places + 1 =>
    match i.nearestMultiple? (10 ^ (places + 1)) with
    | some digits => ⟨digits, i.power + (places + 1)⟩
    | none => i.coarsest places

end Interval

/-- The shortest decimal that reads back as the value, and the nearest to it of those. A grid with
a place for every digit of the upper end is too coarse to have any number in the interval. -/
def shortest (m : Magnitude) : Scaled :=
  let interval := Interval.ofMagnitude m
  interval.coarsest (Nat.toDigits 10 interval.high).length

end BridgeNames.Decimal
