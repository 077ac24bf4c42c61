/-!
# Double precision

A finite number of double precision that is not negative is a whole number of
units of 2 ^ (-1074), with at most 53 significant bits. Sums, products and
quotients are exact first and then rounded to the nearest such number; a number
half way between two goes to the one whose last bit is zero.
-/

namespace MediaGateway

/-- The whole number nearest to a quotient; half way it is the even one. -/
def roundEven (numerator denominator : Nat) : Nat :=
  let whole := numerator / denominator
  let twice := 2 * (numerator % denominator)
  if twice < denominator then whole
  else if denominator < twice then whole + 1
  else if whole % 2 = 0 then whole else whole + 1

/-- The whole number nearest to a quotient; half way it is the larger one. -/
def roundUp (numerator denominator : Nat) : Nat :=
  (2 * numerator + denominator) / (2 * denominator)

/-- A finite number of double precision that is not negative. -/
structure Binary64 where
  /-- How many units of 2 ^ (-1074) it has. -/
  units : Nat
  deriving DecidableEq, Repr

namespace Binary64

/-- Units that make up one. -/
def unit : Nat := Nat.pow 2 1074

/-- The number nearest to a quotient of units. Beyond 53 bits of units, numbers are as far
apart as the bits in excess say. -/
def nearest (numerator denominator : Nat) : Binary64 :=
  let spacing := Nat.pow 2 ((numerator / denominator).log2 - 52)
  ⟨roundEven numerator (denominator * spacing) * spacing⟩

/-- Zero. -/
def zero : Binary64 := ⟨0⟩

/-- The number nearest to a whole number. -/
def ofNat (value : Nat) : Binary64 := nearest (value * unit) 1

/-- The sum. -/
def add (left right : Binary64) : Binary64 := nearest (left.units + right.units) 1

/-- The product. -/
def mul (left right : Binary64) : Binary64 := nearest (left.units * right.units) unit

/-- The quotient; the divisor is not zero. -/
def div (left right : Binary64) : Binary64 := nearest (left.units * unit) right.units

/-- Whether one number is less than another. -/
def less (left right : Binary64) : Bool := left.units < right.units

/-- The largest finite number has fewer units than this. -/
def bound : Nat := Nat.pow 2 (1024 + 1074)

/-- Whether rounding stayed within the finite numbers. -/
def isFinite (value : Binary64) : Bool := value.units < bound

/-- The 64 bits of the standard layout: sign, eleven bits of exponent, 52 of fraction. -/
def toBits (value : Binary64) : Nat :=
  if value.units < Nat.pow 2 52 then value.units
  else
    let shift := value.units.log2 - 52
    (shift + 1) * Nat.pow 2 52 + (value.units / Nat.pow 2 shift - Nat.pow 2 52)

/-- The number as a whole number of hundredths, the nearest even one half way. -/
def hundredths (value : Binary64) : Nat := roundEven (value.units * 100) unit

/-- The number with two decimal places. -/
def toFixed2 (value : Binary64) : String :=
  let all := value.hundredths
  let cents := all % 100
  toString (all / 100) ++ "." ++ toString (cents / 10) ++ toString (cents % 10)

end Binary64

end MediaGateway
