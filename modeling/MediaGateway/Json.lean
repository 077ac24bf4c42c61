import MediaGateway.Bytes
import MediaGateway.Decimal.Shortest

/-!
# Values in JSON

A value is null, a truth value, a number, a text, a list, or a record of named
values. The compact form has no blanks; records are written in the order of
their entries.
-/

namespace MediaGateway.Json

/-- A number: whole ones of 64 bits stay apart from all others. -/
inductive Number where
  /-- A whole number below 2 ^ 64. -/
  | natural (value : Nat)
  /-- A whole number below zero, given without its sign, at most 2 ^ 63. -/
  | negative (value : Nat)
  /-- Any other number, by sign and size. -/
  | real (isNegative : Bool) (size : Binary64)
  deriving DecidableEq, Repr

/-- A value. -/
inductive Value where
  /-- Nothing. -/
  | null
  /-- A truth value. -/
  | flag (content : Bool)
  /-- A number. -/
  | number (content : Number)
  /-- A text. -/
  | text (content : String)
  /-- Several values. -/
  | list (items : List Value)
  /-- Several named values. -/
  | record (entries : List (String × Value))

/-- The characters that stand for one character between quotes. -/
def escaped (char : Char) : List Char :=
  if char = '"' then ['\\', '"']
  else if char = '\\' then ['\\', '\\']
  else if char = '\x08' then ['\\', 'b']
  else if char = '\x0c' then ['\\', 'f']
  else if char = '\n' then ['\\', 'n']
  else if char = '\r' then ['\\', 'r']
  else if char = '\t' then ['\\', 't']
  else if char.toNat < 0x20 then
    ['\\', 'u', '0', '0', Bytes.hexDigit (char.toNat / 16), Bytes.hexDigit (char.toNat % 16)]
  else [char]

/-- A text between quotes. -/
def textChars (text : String) : List Char := '"' :: text.toList.flatMap escaped ++ ['"']

/-- Decimal digits of a number. -/
def digitChars (value : Nat) : List Char := Nat.toDigits 10 value

/-- The places of numbers that are written without an exponent: the point stands at most this
far behind the first digit, -/
def pointBehind : Int := 16

/-- and at most this far in front of it. -/
def pointAhead : Int := -5

/-- A shortest decimal with a point, or with an exponent where the point would be far away. -/
def scaledChars (scaled : Decimal.Scaled) : List Char :=
  let digits := digitChars scaled.digits
  let point : Int := digits.length + scaled.exponent
  if 0 ≤ scaled.exponent ∧ point ≤ pointBehind then
    digits ++ List.replicate scaled.exponent.toNat '0' ++ ['.', '0']
  else if 0 < point ∧ point ≤ pointBehind then
    digits.take point.toNat ++ '.' :: digits.drop point.toNat
  else if pointAhead < point ∧ point ≤ 0 then
    '0' :: '.' :: (List.replicate (-point).toNat '0' ++ digits)
  else
    let rest := digits.drop 1
    let exponent := point - 1
    digits.take 1 ++ (if rest = [] then [] else '.' :: rest)
      ++ 'e' :: (if exponent < 0 then '-' else '+') :: digitChars exponent.natAbs

/-- The characters of a number. -/
def Number.chars : Number → List Char
  | natural value => digitChars value
  | negative value => '-' :: digitChars value
  | real isNegative size =>
    let unsigned := if size.units = 0 then ['0', '.', '0'] else scaledChars (Decimal.shortest size)
    if isNegative then '-' :: unsigned else unsigned

mutual

/-- The compact form of a value. -/
def Value.chars : Value → List Char
  | .null => ['n', 'u', 'l', 'l']
  | .flag true => ['t', 'r', 'u', 'e']
  | .flag false => ['f', 'a', 'l', 's', 'e']
  | .number content => content.chars
  | .text content => textChars content
  | .list items => '[' :: itemChars items
  | .record entries => '\x7b' :: entryChars entries

/-- Values up to the bracket that closes their list. -/
def itemChars : List Value → List Char
  | [] => [']']
  | [item] => item.chars ++ [']']
  | item :: rest => item.chars ++ ',' :: itemChars rest

/-- Named values up to the brace that closes their record. -/
def entryChars : List (String × Value) → List Char
  | [] => ['\x7d']
  | [(name, value)] => textChars name ++ ':' :: value.chars ++ ['\x7d']
  | (name, value) :: rest => textChars name ++ ':' :: value.chars ++ ',' :: entryChars rest

end

/-- The compact form of a value as a text. -/
def Value.compact (value : Value) : String := String.ofList value.chars

/-- Entries with one more name, in the order of the names; an equal name is replaced. -/
def put (name : String) (value : Value) : List (String × Value) → List (String × Value)
  | [] => [(name, value)]
  | (first, old) :: rest =>
    if name < first then (name, value) :: (first, old) :: rest
    else if first < name then (first, old) :: put name value rest
    else (name, value) :: rest

/-- The record of named values, in the order of the names; of equal names the last one counts. -/
def ordered (entries : List (String × Value)) : List (String × Value) :=
  entries.foldl (fun sorted entry => put entry.1 entry.2 sorted) []

/-- A list of texts. -/
def texts (items : List String) : Value := .list (items.map .text)

end MediaGateway.Json
