/-!
# Punycode

The form of a label beyond ASCII that holds letters, digits and hyphens only:
first the ASCII characters of the label, then, as numbers of varying base 36
length, how far the state of a counter over code points and places moves on from
one of the other characters to the next.
-/

namespace MediaGateway.Url.Punycode

/-- Digits of a number. -/
def base : Nat := 36

/-- The digit of a value below 36. -/
def digit (value : Nat) : Char :=
  if value < 26 then Char.ofNat (97 + value) else Char.ofNat (22 + value)

/-- The threshold of the digit at a place, between 1 and 26. -/
def threshold (place bias : Nat) : Nat := min (max (base * (place + 1) - bias) 1) 26

/-- How often a step is divided until it is small, and what is left of it; `fuel` bounds the
divisions. -/
def settleStep (fuel step count : Nat) : Nat × Nat :=
  match fuel with
  | 0 => (step, count)
  | fuel + 1 => if 455 < step then settleStep fuel (step / 35) (count + base) else (step, count)

/-- The bias after a step, given how many characters are then placed. -/
def adapt (step placed : Nat) (first : Bool) : Nat :=
  let damped := if first then step / 700 else step / 2
  let (small, count) := settleStep 64 (damped + damped / placed) 0
  count + base * small / (small + 38)

/-- The digits of a number under a bias; `fuel` bounds their count. -/
def number (bias : Nat) : (fuel place value : Nat) → List Char
  | 0, _, _ => []
  | fuel + 1, place, value =>
    let least := threshold place bias
    if value < least then [digit value]
    else
      let rest := value - least
      digit (least + rest % (base - least)) :: number bias fuel (place + 1) (rest / (base - least))

/-- The state of the encoder. -/
structure Counter where
  /-- Steps since the last character that was written. -/
  step : Nat
  /-- The bias of the next number. -/
  bias : Nat
  /-- Characters placed so far. -/
  placed : Nat
  /-- What is written, last first. -/
  written : List Char

/-- One sweep over the characters for one code point: smaller ones move the counter on, and
every occurrence of the code point itself is written. -/
def sweep (ascii code : Nat) (chars : List Char) (counter : Counter) : Counter :=
  chars.foldl (fun counter char =>
    if char.toNat < code then { counter with step := counter.step + 1 }
    else if char.toNat = code then
      { step := 0
        bias := adapt counter.step (counter.placed + 1) (counter.placed = ascii)
        placed := counter.placed + 1
        written := (number counter.bias 64 0 counter.step).reverse ++ counter.written }
    else counter) counter

/-- Sweeps for code points in ascending order, from the one after `last` on. -/
def sweeps (ascii : Nat) (chars : List Char) : (codes : List Nat) → (last : Nat) → Counter → Counter
  | [], _, counter => counter
  | code :: codes, last, counter =>
    let moved := { counter with step := counter.step + (code - last) * (counter.placed + 1) }
    let after := sweep ascii code chars moved
    sweeps ascii chars codes (code + 1) { after with step := after.step + 1 }

/-- The code points beyond ASCII, each once and in ascending order. -/
def foreignCodes (chars : List Char) : List Nat :=
  (((chars.map Char.toNat).filter (128 ≤ ·)).mergeSort (· ≤ ·)).eraseDups

/-! ## Encoding -/

/-- The form of a label. -/
def encode (label : List Char) : List Char :=
  let plain := label.filter fun char => char.toNat < 128
  let start := if plain = [] then [] else plain ++ ['-']
  let counter := sweeps plain.length label (foreignCodes label) 128 ⟨0, 72, plain.length, []⟩
  start ++ counter.written.reverse

/-! ## Decoding -/

/-- The value of a digit. -/
def digitValue? (char : Char) : Option Nat :=
  if 'a' ≤ char ∧ char ≤ 'z' then some (char.toNat - 97)
  else if 'A' ≤ char ∧ char ≤ 'Z' then some (char.toNat - 65)
  else if '0' ≤ char ∧ char ≤ '9' then some (char.toNat - 22)
  else none

/-- The bound of the numbers that are read. -/
def numberBound : Nat := Nat.pow 2 32

/-- The state of the decoder. -/
structure Placing where
  /-- Where the counter stands with the digits read so far. -/
  step : Nat
  /-- Where it stood before the number that is being read. -/
  start : Nat
  /-- What the next digit counts for. -/
  weight : Nat
  /-- The place of the next digit in its number. -/
  place : Nat
  /-- The code point of the last character that was placed. -/
  code : Nat
  /-- The bias of the number. -/
  bias : Nat
  /-- The characters placed so far. -/
  chars : List Char

/-- Ends a number: the counter says which character is placed next, and where. -/
def Placing.putIn (placing : Placing) : Option Placing :=
  let count := placing.chars.length + 1
  let code := placing.code + placing.step / count
  let position := placing.step % count
  if code.isValidChar then
    some {
      step := position + 1
      start := position + 1
      weight := 1
      place := 0
      code := code
      bias := adapt (placing.step - placing.start) count (placing.start = 0)
      chars := placing.chars.insertIdx position (Char.ofNat code) }
  else none

/-- Reads a digit, which ends its number when it is small. -/
def Placing.read (placing : Placing) (char : Char) : Option Placing := do
  let value ← digitValue? char
  let step := placing.step + value * placing.weight
  let least := threshold placing.place placing.bias
  let weight := placing.weight * (base - least)
  if numberBound ≤ step then none
  else if value < least then ({ placing with step := step } : Placing).putIn
  else if numberBound ≤ weight then none
  else some { placing with step := step, weight := weight, place := placing.place + 1 }

/-- The label that a form stands for; nothing when it is none. -/
def decode? (form : List Char) : Option (List Char) := do
  let digits := (form.reverse.takeWhile (· ≠ '-')).reverse
  let plain := form.take (form.length - digits.length - 1)
  let numbers := if plain = [] then form else digits
  let read ← numbers.foldlM Placing.read ⟨0, 0, 1, 0, 128, 72, plain⟩
  if read.place = 0 then some read.chars else none

end MediaGateway.Url.Punycode
