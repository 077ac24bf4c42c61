import MediaGateway.Text.AsciiCase

/-!
# Decimal numerals

Reading a number that must fit a given bound, with the first thing that is wrong
about it. Signs are read where a signed number is asked for; a plus sign is
allowed everywhere.
-/

namespace MediaGateway.Text

/-- Why a text is no number. -/
inductive NumeralProblem where
  /-- There is nothing to read. -/
  | empty
  /-- Something is not a digit. -/
  | badDigit
  /-- The number is beyond its bound. -/
  | tooLarge
  deriving DecidableEq, Repr

/-- The value of a decimal digit. -/
def digitValue? (char : Char) : Option Nat :=
  if '0' ≤ char ∧ char ≤ '9' then some (char.toNat - 48) else none

/-- The number that digits add to those already read, the first problem from the left. -/
def readDigits (bound : Nat) (value : Nat) : List Char → Except NumeralProblem Nat
  | [] => .ok value
  | char :: rest =>
    match digitValue? char with
    | none => .error .badDigit
    | some digit =>
      let next := value * 10 + digit
      if next < bound then readDigits bound next rest else .error .tooLarge

/-- The number below a bound that characters write, with a plus sign or without. -/
def readNatural (bound : Nat) : List Char → Except NumeralProblem Nat
  | [] => .error .empty
  | '+' :: [] => .error .badDigit
  | '+' :: digits => readDigits bound 0 digits
  | digits => readDigits bound 0 digits

/-- The signed number of 64 bits that characters write. -/
def readInt64 : List Char → Except NumeralProblem Int
  | '-' :: [] => .error .badDigit
  | '-' :: digits => (readDigits (Nat.pow 2 63 + 1) 0 digits).map fun value => -(value : Int)
  | chars => (readNatural (Nat.pow 2 63) chars).map fun value => (value : Int)

/-- What follows a sign in front of characters, if there is one. -/
def dropSign (chars : List Char) : List Char :=
  if chars.head? = some '+' ∨ chars.head? = some '-' then chars.drop 1 else chars

/-- Whether characters write a number with or without a point and an exponent, or one that is
infinite or undefined. -/
def isDecimal (chars : List Char) : Bool :=
  let size := dropSign chars
  let whole := size.takeWhile Char.isDigit
  let pointed := size.drop whole.length
  let places := if pointed.head? = some '.' then (pointed.drop 1).takeWhile Char.isDigit else []
  let rest :=
    if pointed.head? = some '.' then (pointed.drop 1).drop places.length else pointed
  let isExponent : Bool := match rest with
    | [] => true
    | mark :: exponent =>
      let digits := dropSign exponent
      (mark = 'e' || mark = 'E') && digits ≠ [] && digits.all Char.isDigit
  ["inf", "infinity", "nan"].any (sameIgnoringCase (String.ofList size))
    || (whole ++ places ≠ [] && isExponent)

end MediaGateway.Text
