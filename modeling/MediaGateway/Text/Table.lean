import MediaGateway.Bytes

/-!
# Tables of characters

What a standard says of characters is kept in tables. The row of a table holds
for a range of code points; rows stand in ascending order and do not overlap, so
that a character is found by halving. A table is written as words between blanks:
`300-36F` is a range, `5BF` a single code point, and what a row says follows a
colon.
-/

namespace MediaGateway.Text

/-- A row: a range of code points, and what is said of them. -/
structure Row (α : Type) where
  /-- The first code point. -/
  first : Nat
  /-- The last code point. -/
  last : Nat
  /-- What is said of them. -/
  entry : α

/-- Rows in ascending order. -/
abbrev Table (α : Type) : Type := Array (Row α)

namespace Table

/-- How many rows begin at a code point or before it, when that is so for all rows below a
place and for none from another place on. -/
def countUpTo {α : Type} (table : Table α) (code low high : Nat) : Nat :=
  if low < high then
    let middle := (low + high) / 2
    match table[middle]? with
    | none => low
    | some row =>
      if row.first ≤ code then countUpTo table code (middle + 1) high
      else countUpTo table code low middle
  else low
termination_by high - low

/-- The row for a code point. -/
def row? {α : Type} (table : Table α) (code : Nat) : Option (Row α) :=
  match countUpTo table code 0 table.size with
  | 0 => none
  | count + 1 => table[count]?.filter fun row => code ≤ row.last

/-- What a table says of a character. -/
def entry? {α : Type} (table : Table α) (char : Char) : Option α :=
  (table.row? char.toNat).map Row.entry

/-- The number that hexadecimal digits write. -/
def hexNumber (digits : List Char) : Nat :=
  digits.foldl (fun value digit => value * 16 + (Bytes.hexValue? digit).getD 0) 0

/-- The row that a word writes, given how the part behind its colon is read. -/
def readRow {α : Type} (readEntry : List Char → α) (word : List Char) : Row α :=
  let range := word.takeWhile (· ≠ ':')
  let last := (range.dropWhile (· ≠ '-')).drop 1
  let first := hexNumber (range.takeWhile (· ≠ '-'))
  ⟨first, if last = [] then first else hexNumber last, readEntry (word.drop (range.length + 1))⟩

/-- The words of a text. -/
def words (text : String) : List (List Char) :=
  (text.toList.splitOnP fun char => char = ' ' || char = '\n').filter (· ≠ [])

/-- The table that a text writes. -/
def read {α : Type} (readEntry : List Char → α) (text : String) : Table α :=
  ((words text).map (readRow readEntry)).toArray

end Table

/-- A set of characters. -/
abbrev CharSet : Type := Table Unit

/-- The set that a text writes. -/
def CharSet.read (text : String) : CharSet := Table.read (fun _ => ()) text

/-- Whether a set holds a character. -/
def CharSet.holds (set : CharSet) (char : Char) : Bool := (set.row? char.toNat).isSome

/-- What the characters of a row become. -/
structure Replacement where
  /-- Which of them: the first one and every one that lies a multiple of this further on. -/
  step : Nat
  /-- What the first one becomes; what another one becomes ends as much further on. -/
  codes : List Nat

/-- A table of what characters become. -/
abbrev Replacements : Type := Table Replacement

namespace Replacements

/-- What stands behind the colon of a word: code points with plus signs between them, and after
a slash the step unless it is one. -/
def readReplacement (chars : List Char) : Replacement :=
  let codes := chars.takeWhile (· ≠ '/')
  let step := Table.hexNumber ((chars.dropWhile (· ≠ '/')).drop 1)
  ⟨if step = 0 then 1 else step, (codes.splitOn '+').map Table.hexNumber⟩

/-- The table that a text writes. -/
def read (text : String) : Replacements := Table.read readReplacement text

/-- Code points that end further on. -/
def moved (distance : Nat) : List Nat → List Nat
  | [] => []
  | [code] => [code + distance]
  | code :: codes => code :: moved distance codes

/-- What a character becomes, if the table says so. -/
def replace? (table : Replacements) (char : Char) : Option (List Char) :=
  match table.row? char.toNat with
  | none => none
  | some row =>
    let distance := char.toNat - row.first
    if distance % row.entry.step = 0 then some ((moved distance row.entry.codes).map Char.ofNat)
    else none

end Replacements

end MediaGateway.Text
