import MediaGateway.Text.Decomposition
import MediaGateway.Text.Mark

/-!
# Composed text

Of all the texts with one meaning the composed form is the one that takes letters
with marks as single characters wherever there are such. It is reached by taking
everything apart, bringing the marks behind each letter into the order of their
classes, and putting together again what no mark of the same or a higher class
separates.
-/

namespace MediaGateway.Text

/-! ## Hangul -/

/-- The first syllable. -/
def hangulFirst : Nat := 0xAC00

/-- The first leading consonant. -/
def leadFirst : Nat := 0x1100

/-- How many leading consonants make syllables. -/
def leadCount : Nat := 19

/-- The first vowel. -/
def vowelFirst : Nat := 0x1161

/-- How many vowels make syllables. -/
def vowelCount : Nat := 21

/-- The code point before the first trailing consonant. -/
def trailBase : Nat := 0x11A7

/-- How many endings a syllable may have, none among them. -/
def trailCount : Nat := 28

/-- The parts of a syllable. -/
def hangulParts? (code : Nat) : Option (List Nat) :=
  let place := code - hangulFirst
  if code < hangulFirst ∨ leadCount * vowelCount * trailCount ≤ place then none
  else
    let lead := leadFirst + place / (vowelCount * trailCount)
    let vowel := vowelFirst + place / trailCount % vowelCount
    let trail := place % trailCount
    some (if trail = 0 then [lead, vowel] else [lead, vowel, trailBase + trail])

/-- The syllable of a consonant and a vowel, or of a syllable and its ending. -/
def hangulOf? (left right : Nat) : Option Nat :=
  let place := left - hangulFirst
  if leadFirst ≤ left ∧ left < leadFirst + leadCount ∧ vowelFirst ≤ right
      ∧ right < vowelFirst + vowelCount then
    some (hangulFirst + ((left - leadFirst) * vowelCount + (right - vowelFirst)) * trailCount)
  else if hangulFirst ≤ left ∧ place < leadCount * vowelCount * trailCount
      ∧ place % trailCount = 0 ∧ trailBase < right ∧ right < trailBase + trailCount then
    some (left + (right - trailBase))
  else none

/-! ## Taking apart -/

/-- What a character is taken apart to. -/
def decomposition (char : Char) : List Char :=
  match hangulParts? char.toNat with
  | some parts => parts.map Char.ofNat
  | none => if char.toNat < 0x80 then [char] else (decompositions.replace? char).getD [char]

/-- Puts a character behind others, which are given last first; a mark stands before those of
a higher class. -/
def place (char : Char) : List Char → List Char
  | [] => [char]
  | last :: rest =>
    if combiningClass char ≠ 0 ∧ combiningClass char < combiningClass last then
      last :: place char rest
    else char :: last :: rest

/-- Characters taken apart, with the marks in order. -/
def decomposed (chars : List Char) : List Char :=
  ((chars.flatMap decomposition).foldl (fun seen char => place char seen) []).reverse

/-! ## Putting together -/

/-- The character that two stand for: the one that is taken apart to what they are taken apart
to. -/
def compose? (left right : Char) : Option Char :=
  match hangulOf? left.toNat right.toNat with
  | some code => some (Char.ofNat code)
  | none =>
    let parts := (decomposition left ++ [right]).map Char.toNat
    (decompositions.find? fun row =>
      row.entry.codes = parts && !neverComposed.holds (Char.ofNat row.first)).map fun row =>
        Char.ofNat row.first

/-- What is put together so far: the characters that are done and the marks that follow the
last letter, both last first, and that letter between them. -/
structure Composing where
  /-- The characters in front of the letter. -/
  done : List Char
  /-- The letter. -/
  letter : Char
  /-- The marks that stayed behind the letter. -/
  marks : List Char

/-- All characters, last first. -/
def Composing.chars (composing : Composing) : List Char :=
  composing.marks ++ composing.letter :: composing.done

/-- Whether nothing that stayed behind the letter separates a character from it. -/
def Composing.reaches (composing : Composing) (char : Char) : Bool :=
  match composing.marks with
  | [] => true
  | last :: _ => combiningClass last < combiningClass char

/-- Takes one more character: into the letter, behind it, or as the next letter. -/
def Composing.take (composing : Composing) (char : Char) : Composing :=
  match if composing.reaches char then compose? composing.letter char else none with
  | some whole => { composing with letter := whole }
  | none =>
    if combiningClass char = 0 then ⟨composing.chars, char, []⟩
    else { composing with marks := char :: composing.marks }

/-- Characters put together; marks in front of the first letter stay. -/
def recomposed (chars : List Char) : List Char :=
  let isLoose (char : Char) : Bool := combiningClass char ≠ 0
  match chars.dropWhile isLoose with
  | [] => chars
  | letter :: rest =>
    (rest.foldl Composing.take ⟨(chars.takeWhile isLoose).reverse, letter, []⟩).chars.reverse

/-- The composed form of characters. -/
def composed (chars : List Char) : List Char := recomposed (decomposed chars)

end MediaGateway.Text
