import OpenSound.Ieee

/-!
# Decimals

A decimal is an integer times a power of ten.  `Ieee.Format.shortest` finds the decimal with the
fewest digits that a binary number stands for: of the decimals that round to the number, those with
the fewest digits, and of these the one closest to it.
-/

namespace OpenSound

/-- The number `digits` times ten to the power `exponent`. -/
structure Decimal where
  digits : Nat
  exponent : Int
deriving DecidableEq, Repr, Inhabited

namespace Decimal

/-- The same number without zeros at the end of its digits; `turns` bounds their count. -/
def strip (d : Decimal) : (turns : Nat) → Decimal
  | 0 => d
  | turns + 1 =>
    if d.digits % 10 = 0 ∧ d.digits ≠ 0 then strip ⟨d.digits / 10, d.exponent + 1⟩ turns else d

/-- The number of decimal digits of an integer. -/
def digitCount (n : Nat) : Nat := (Nat.toDigits 10 n).length

end Decimal

namespace Ieee.Format

variable (format : Format)

/-- What rounds to a number: all from `low` to `high` around `value`, each times ten to the power
`exponent`, the ends included if `closed`. -/
structure Interval where
  low : Nat
  value : Nat
  high : Nat
  exponent : Int
  closed : Bool

/-- The interval of a finite number that is not zero.  The lower neighbour of a power of two lies
closer than the upper one. -/
def interval (bits : Nat) : Interval :=
  let (m, q) := format.scaled bits
  let below := if format.fraction bits = 0 ∧ 1 < format.exponent bits then 1 else 2
  -- quarters of the last binary place, as integers in the decimal grid that holds them exactly
  let quarter := q - 2
  let unit := if 0 ≤ quarter then 1 <<< quarter.toNat else Nat.pow 5 (-quarter).toNat
  { low := (4 * m - below) * unit, value := 4 * m * unit, high := (4 * m + 2) * unit
    exponent := min quarter 0, closed := m % 2 = 0 }

/-- Whether a point lies in the interval. -/
def Interval.holds (i : Interval) (point : Nat) : Bool :=
  if i.closed then i.low ≤ point && point ≤ i.high else i.low < point && point < i.high

/-- The multiple of `step` in the interval that lies closest to the value, as its factor. -/
def Interval.nearest? (i : Interval) (step : Nat) : Option Nat :=
  let below := i.value / step
  let above := below + 1
  match i.holds (below * step), i.holds (above * step) with
  | true, true =>
    let down := i.value - below * step
    let up := above * step - i.value
    some (if down < up ∨ (down = up ∧ below % 2 = 0) then below else above)
  | true, false => some below
  | false, true => some above
  | false, false => none

/-- The shortest decimal for the magnitude of a finite number that is not zero.  The grid with as
many digits as the number itself has a point in the interval, the number. -/
def shortest (bits : Nat) : Decimal :=
  let i := format.interval bits
  let count := Decimal.digitCount i.value
  let found := (List.range count).reverse.findSome? fun (dropped : Nat) =>
    (i.nearest? (Nat.pow 10 dropped)).map fun digits => Decimal.mk digits (i.exponent + dropped)
  (found.getD ⟨i.value, i.exponent⟩).strip count

end Ieee.Format

end OpenSound
