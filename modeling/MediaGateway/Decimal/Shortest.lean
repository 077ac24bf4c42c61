import MediaGateway.Decimal.Binary64

/-!
# Shortest decimals

Of all decimal numbers that round to a given number of double precision, the
shortest has the fewest digits, and among those it is the nearest. Every number
of units of 2 ^ (-1074) is a whole number of units of 10 ^ (-1074), so all
comparisons are between whole numbers.
-/

namespace MediaGateway.Decimal

/-- Digits and the power of ten that they are multiplied by. -/
structure Scaled where
  /-- The digits as a number. -/
  digits : Nat
  /-- The exponent of ten. -/
  exponent : Int
  deriving DecidableEq, Repr

/-- The numbers that round to a given one, in quarters of 10 ^ (-1074). -/
structure Interval where
  /-- The number itself. -/
  middle : Nat
  /-- Half way to the next smaller one. -/
  lower : Nat
  /-- Half way to the next larger one. -/
  upper : Nat
  /-- Whether the ends round to it too. -/
  closed : Bool

/-- Quarters of 10 ^ (-1074) in a unit of 2 ^ (-1074), divided by four. -/
def finest : Nat := Nat.pow 5 1074

/-- The numbers that round to a number other than zero. -/
def interval (value : Binary64) : Interval :=
  let units := value.units
  let gap := Nat.pow 2 (units.log2 - 52)
  let gapBelow := if 52 < units.log2 ∧ units = Nat.pow 2 units.log2 then gap / 2 else gap
  { middle := 4 * units * finest
    lower := (4 * units - 2 * gapBelow) * finest
    upper := (4 * units + 2 * gap) * finest
    closed := units / gap % 2 = 0 }

/-- Whether a number in quarters rounds to the middle. -/
def Interval.holds (interval : Interval) (quarters : Nat) : Bool :=
  if interval.closed then interval.lower ≤ quarters && quarters ≤ interval.upper
  else interval.lower < quarters && quarters < interval.upper

/-- The multiple of a step that rounds to the middle and is nearest to it, if there is one; half
way it is the even one. -/
def Interval.onGrid? (interval : Interval) (step : Nat) : Option Nat :=
  let below := interval.middle / step
  let nearer := roundEven interval.middle step
  let other := if nearer = below then below + 1 else below
  if interval.holds (nearer * step) then some nearer
  else if interval.holds (other * step) then some other
  else none

/-- The first grid with a number that rounds to the middle, from the grid of `places` zeros
behind the digits down to finer ones. -/
def Interval.firstGrid (interval : Interval) : (places : Nat) → Scaled
  | 0 => ⟨interval.middle / 4, -1074⟩
  | places + 1 =>
    match interval.onGrid? (4 * Nat.pow 10 (places + 1)) with
    | some digits => ⟨digits, (places + 1 : Nat) - 1074⟩
    | none => firstGrid interval places

/-- Digits without zeros at their end; `fuel` bounds how many are dropped. -/
def Scaled.dropZeros : (fuel : Nat) → Scaled → Scaled
  | 0, scaled => scaled
  | fuel + 1, scaled =>
    if scaled.digits % 10 = 0 ∧ scaled.digits ≠ 0 then
      dropZeros fuel ⟨scaled.digits / 10, scaled.exponent + 1⟩
    else scaled

/-- The shortest decimal of a number other than zero. -/
def shortest (value : Binary64) : Scaled :=
  let range := interval value
  (range.firstGrid (Nat.toDigits 10 (range.middle / 4)).length).dropZeros 800

end MediaGateway.Decimal
