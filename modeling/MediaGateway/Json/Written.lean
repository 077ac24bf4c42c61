import MediaGateway.Json

/-!
# Values as they are written

A text in JSON is first taken apart without regard to what it is for: strings
keep their escapes and numbers their digits. Whatever is not well-formed is
refused. What nobody asks for is never looked at more closely, so it may hold
numbers beyond all bounds and any depth of lists.
-/

namespace MediaGateway.Json

/-- A number as it is written. -/
structure Numeral where
  /-- Whether a minus sign stands in front. -/
  isNegative : Bool
  /-- The digits in front of the point. -/
  whole : List Nat
  /-- The digits behind the point, none when there is no point. -/
  fraction : List Nat
  /-- Whether the exponent is negative, and its digits. -/
  exponent : Option (Bool × List Nat)
  deriving DecidableEq

/-- A value as it is written. -/
inductive Written where
  /-- Nothing. -/
  | null
  /-- A truth value. -/
  | flag (content : Bool)
  /-- A number. -/
  | numeral (content : Numeral)
  /-- What stands between quotes. -/
  | quoted (inside : Bytes)
  /-- Several values. -/
  | list (items : List Written)
  /-- Several named values. -/
  | record (entries : List (Bytes × Written))

/-- What a reader returns: what it read, and what follows. -/
abbrev Reading (α : Type) : Type := Option (α × Bytes)

/-- Whether an octet is blank. -/
def isBlank (octet : UInt8) : Bool := octet = 0x20 || octet = 0x0A || octet = 0x0D || octet = 0x09

/-- Octets without the blank ones in front. -/
def skipBlank (bytes : Bytes) : Bytes := bytes.dropWhile isBlank

/-- Whether an octet is a decimal digit. -/
def isDigit (octet : UInt8) : Bool := 0x30 ≤ octet && octet ≤ 0x39

/-- The digits in front of octets, and what follows them. -/
def takeDigits (bytes : Bytes) : List Nat × Bytes :=
  ((bytes.takeWhile isDigit).map fun octet => octet.toNat - 48, bytes.dropWhile isDigit)

/-- At least one digit. -/
def takeSomeDigits (bytes : Bytes) : Reading (List Nat) :=
  match takeDigits bytes with
  | ([], _) => none
  | (digits, rest) => some (digits, rest)

/-- Digits in front of a point: a zero stands alone. -/
def takeWhole (bytes : Bytes) : Reading (List Nat) :=
  match takeDigits bytes with
  | ([], _) => none
  | (0 :: _ :: _, _) => none
  | (digits, rest) => some (digits, rest)

/-- A point with digits behind it, if there is one. -/
def takeFraction : Bytes → Reading (List Nat)
  | 0x2E :: rest => takeSomeDigits rest
  | bytes => some ([], bytes)

/-- An exponent, if there is one. -/
def takeExponent : Bytes → Reading (Option (Bool × List Nat))
  | mark :: rest =>
    if mark = 0x65 || mark = 0x45 then
      let (isNegative, digits) := match rest with
        | 0x2B :: digits => (false, digits)
        | 0x2D :: digits => (true, digits)
        | digits => (false, digits)
      (takeSomeDigits digits).map fun (digits, rest) => (some (isNegative, digits), rest)
    else some (none, mark :: rest)
  | [] => some (none, [])

/-- A number whose sign is already read. -/
def takeNumeral (isNegative : Bool) (bytes : Bytes) : Reading Numeral :=
  (takeWhole bytes).bind fun (whole, rest) =>
    (takeFraction rest).bind fun (fraction, rest) =>
      (takeExponent rest).map fun (exponent, rest) =>
        (⟨isNegative, whole, fraction, exponent⟩, rest)

/-- The value of a hexadecimal digit. -/
def hexOctet? (octet : UInt8) : Option Nat := Bytes.hexValue? (Char.ofNat octet.toNat)

/-- What stands between quotes, up to the one that closes; `seen` holds what came before, last
first. Escapes must be well-formed, and control characters must not stand as they are. -/
def takeQuoted (seen : Bytes) : Bytes → Reading Bytes
  | [] => none
  | 0x22 :: rest => some (seen.reverse, rest)
  | 0x5C :: 0x75 :: a :: b :: c :: d :: rest =>
    if [a, b, c, d].all fun octet => (hexOctet? octet).isSome then
      takeQuoted (d :: c :: b :: a :: 0x75 :: 0x5C :: seen) rest
    else none
  | 0x5C :: mark :: rest =>
    if [0x22, 0x5C, 0x2F, 0x62, 0x66, 0x6E, 0x72, 0x74].contains mark then
      takeQuoted (mark :: 0x5C :: seen) rest
    else none
  | octet :: rest => if octet < 0x20 ∨ octet = 0x5C then none else takeQuoted (octet :: seen) rest

/-- What follows a word whose first letter is already read. -/
def takeWord (word : Bytes) (value : Written) (bytes : Bytes) : Reading Written :=
  if bytes.take word.length = word then some (value, bytes.drop word.length) else none

mutual

/-- A value after blanks; `fuel` bounds how deep and how far the reading goes. -/
def takeValue : (fuel : Nat) → Bytes → Reading Written
  | 0, _ => none
  | fuel + 1, bytes =>
    match skipBlank bytes with
    | [] => none
    | 0x6E :: rest => takeWord [0x75, 0x6C, 0x6C] .null rest
    | 0x74 :: rest => takeWord [0x72, 0x75, 0x65] (.flag true) rest
    | 0x66 :: rest => takeWord [0x61, 0x6C, 0x73, 0x65] (.flag false) rest
    | 0x22 :: rest => (takeQuoted [] rest).map fun (inside, rest) => (.quoted inside, rest)
    | 0x2D :: rest => (takeNumeral true rest).map fun (numeral, rest) => (.numeral numeral, rest)
    | 0x5B :: rest =>
      match skipBlank rest with
      | 0x5D :: rest => some (.list [], rest)
      | rest => (takeItems fuel rest).map fun (items, rest) => (.list items, rest)
    | 0x7B :: rest =>
      match skipBlank rest with
      | 0x7D :: rest => some (.record [], rest)
      | rest => (takeEntries fuel rest).map fun (entries, rest) => (.record entries, rest)
    | bytes => (takeNumeral false bytes).map fun (numeral, rest) => (.numeral numeral, rest)

/-- The values of a list up to the bracket that closes it. -/
def takeItems : (fuel : Nat) → Bytes → Reading (List Written)
  | 0, _ => none
  | fuel + 1, bytes =>
    match takeValue fuel bytes with
    | none => none
    | some (item, rest) =>
      match skipBlank rest with
      | 0x2C :: rest => (takeItems fuel rest).map fun (items, rest) => (item :: items, rest)
      | 0x5D :: rest => some ([item], rest)
      | _ => none

/-- The named values of a record up to the brace that closes it. -/
def takeEntries : (fuel : Nat) → Bytes → Reading (List (Bytes × Written))
  | 0, _ => none
  | fuel + 1, bytes =>
    match skipBlank bytes with
    | 0x22 :: rest =>
      match takeQuoted [] rest with
      | none => none
      | some (name, rest) =>
        match skipBlank rest with
        | 0x3A :: rest =>
          match takeValue fuel rest with
          | none => none
          | some (value, rest) =>
            match skipBlank rest with
            | 0x2C :: rest =>
              (takeEntries fuel rest).map fun (entries, rest) => ((name, value) :: entries, rest)
            | 0x7D :: rest => some ([(name, value)], rest)
            | _ => none
        | _ => none
    | _ => none

end

/-- The value that octets write, with nothing but blanks around it. -/
def Written.read? (bytes : Bytes) : Option Written :=
  match takeValue (2 * bytes.length + 1) bytes with
  | some (value, rest) => if skipBlank rest = [] then some value else none
  | none => none

end MediaGateway.Json
