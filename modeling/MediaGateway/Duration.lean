import MediaGateway.Decimal.Binary64

/-!
# Spans of time

A span is a whole number of nanoseconds. Averages are taken in double precision:
spans become seconds, their mean becomes a span again, to the nearest
nanosecond, and is shown in milliseconds with two decimal places.
-/

namespace MediaGateway

/-- A span of time. -/
structure Duration where
  /-- How many nanoseconds it has. -/
  nanoseconds : Nat
  deriving DecidableEq, Repr

namespace Duration

/-- Nanoseconds in a second. -/
def perSecond : Nat := 1000000000

/-- The span in seconds: the whole ones and the rest are rounded before they are added. -/
def seconds (span : Duration) : Binary64 :=
  (Binary64.ofNat (span.nanoseconds / perSecond)).add
    ((Binary64.ofNat (span.nanoseconds % perSecond)).div (Binary64.ofNat perSecond))

/-- The span nearest to a number of seconds; nothing from 2 ^ 64 seconds on. -/
def ofSeconds? (seconds : Binary64) : Option Duration :=
  if Nat.pow 2 64 * Binary64.unit ≤ seconds.units then none
  else some ⟨roundEven (seconds.units * perSecond) Binary64.unit⟩

/-- The span in milliseconds, rounded to hundredths, a half upwards. -/
def milliseconds (span : Duration) : Binary64 :=
  let scaled := span.seconds.mul (Binary64.ofNat 100000)
  (Binary64.ofNat (roundUp scaled.units Binary64.unit)).div (Binary64.ofNat 100)

/-- The mean of numbers of seconds: their sum from the first on, divided by their count. -/
def mean (samples : List Binary64) : Binary64 :=
  (samples.foldl Binary64.add Binary64.zero).div (Binary64.ofNat (max samples.length 1))

end Duration

end MediaGateway
