import MediaGateway.Bytes
import MediaGateway.Text.Composed
import MediaGateway.Url.Domain.Direction
import MediaGateway.Url.Domain.Joining
import MediaGateway.Url.Domain.Mapping
import MediaGateway.Url.Punycode

/-!
# Domains

A domain is written in any script and used in ASCII. Its labels stand between
full stops. A label beyond ASCII is brought to one form for all that mean the
same, checked, and encoded behind `xn--`; a label that is encoded already must
hold such a form. Where a label is written from right to left, all labels must be
in order for a line of both directions.
-/

namespace MediaGateway.Url.Domain

/-- A label of a domain. -/
structure Label where
  /-- The label in ASCII. -/
  written : List Char
  /-- The characters that are meant. -/
  meant : List Char
  deriving DecidableEq, Repr

/-- Whether characters are all in ASCII. -/
def isAscii (chars : List Char) : Bool := chars.all fun char => char.toNat < 0x80

/-! ## Single labels -/

/-- What an encoded label begins with. -/
def encodedMark : List Char := ['x', 'n', '-', '-']

/-- The most characters of a label that is encoded. -/
def longestMeant : Nat := 1000

/-- The most characters that are decoded. -/
def longestEncoded : Nat := 2000

/-- The sign that keeps letters from joining. -/
def nonJoiner : Char := '\u200C'

/-- The sign that makes letters join. -/
def joiner : Char := '\u200D'

/-- Whether the first character that joining does not pass over is in one of two sets. -/
def meetsJoining (left right : Text.CharSet) (chars : List Char) : Bool :=
  (chars.dropWhile transparent.holds).head?.any fun char => left.holds char || right.holds char

/-- Whether a joining sign may stand between characters, those before it last first: behind a
sign that takes the vowel always, and the sign against joining where letters would join. -/
def joinerFits (sign : Char) (before after : List Char) : Bool :=
  before.head?.any (fun char => Text.combiningClass char = Text.viramaClass)
    || (sign = nonJoiner && meetsJoining joiningNext joiningBoth before
      && meetsJoining joiningPrevious joiningBoth after)

/-- Whether all joining signs are in place; `before` holds the characters in front, last first. -/
def joinersFit (before : List Char) : List Char → Bool
  | [] => true
  | char :: rest =>
    ((char ≠ nonJoiner && char ≠ joiner) || joinerFits char before rest)
      && joinersFit (char :: before) rest

/-- Whether a label may hold its characters where they stand: it does not begin with a mark, and
its joining signs are in place. -/
def isWellFormed (label : List Char) : Bool :=
  !label.head?.any Text.isMark && joinersFit [] label

/-- The form of characters that all texts with their meaning share; nothing when a domain must
not hold one of them. -/
def canonical? (chars : List Char) : Option (List Char) :=
  (chars.mapM map?).map fun parts => Text.composed parts.flatten

/-- The label behind the mark of an encoded one. -/
def decodedLabel? (encoded : List Char) : Option (List Char) := do
  if encoded.getLast?.all (· = '-') ∨ longestEncoded < encoded.length then none
  else
    let label ← Punycode.decode? encoded
    if label.all (fun char => map? char = some [char]) ∧ Text.composed label = label then some label
    else none

/-- The label that characters in their shared form write. -/
def Label.ofChars? (chars : List Char) : Option Label :=
  if encodedMark.isPrefixOf chars then do
    let label ← if isAscii chars then decodedLabel? (chars.drop encodedMark.length) else none
    if isWellFormed label then some ⟨chars, label⟩ else none
  else if isAscii chars then some ⟨chars, chars⟩
  else if chars.length ≤ longestMeant ∧ isWellFormed chars then
    some ⟨encodedMark ++ Punycode.encode chars, chars⟩
  else none

/-! ## Labels of both directions -/

/-- Whether a direction makes a label one of those written from right to left. -/
def Direction.turns (direction : Direction) : Bool :=
  direction = .rightToLeft || direction = .arabic

/-- Whether a label written from left to right may hold a character of a direction inside. -/
def Direction.fitsLeftToRight (direction : Direction) : Bool := !direction.turns

/-- Whether a label written from right to left may hold a character of a direction inside. -/
def Direction.fitsRightToLeft (direction : Direction) : Bool := direction ≠ .leftToRight

/-- Whether a label is in order for a line of both directions: it begins with a letter, holds
what fits the direction of that letter, ends in a letter or a number apart from marks, and does
not mix the kinds of numbers from right to left. -/
def isOrdered (label : List Char) : Bool :=
  match label.map direction with
  | [] => true
  | first :: rest =>
    let inner := (rest.reverse.dropWhile (· = .nonspacing)).reverse
    if first = .leftToRight then
      inner.all Direction.fitsLeftToRight
        && inner.getLast?.all fun last => last = .leftToRight || last = .european
    else if first = .rightToLeft then
      inner.all Direction.fitsRightToLeft
        && inner.getLast?.all (fun last => last.turns || last = .european)
        && !(inner.contains .european && inner.contains .arabic)
    else false

/-- Whether labels are in order together. -/
def areOrdered (labels : List Label) : Bool :=
  !(labels.any fun label => label.meant.any fun char => (direction char).turns)
    || labels.all fun label => isOrdered label.meant

/-! ## Whole domains -/

/-- The labels that the characters between two full stops write; other full stops than the usual
one may stand among them. -/
def readLabels (chars : List Char) : Option (List Label) := do
  let canonical ← canonical? chars
  (canonical.splitOn '.').mapM Label.ofChars?

/-- The labels of a domain, none of them with a character that is forbidden. -/
def read? (forbidden : Char → Bool) (text : String) : Option (List Label) := do
  let labels := (← (text.toList.splitOn '.').mapM readLabels).flatten
  if labels.any (fun label => label.meant.any forbidden) then none
  else if areOrdered labels then some labels
  else none

/-- A domain in ASCII. -/
def ascii (labels : List Label) : List Char := ['.'].intercalate (labels.map Label.written)

end MediaGateway.Url.Domain
