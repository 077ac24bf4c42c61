import MediaGateway.Bytes
import MediaGateway.Text.Alphanumeric
import MediaGateway.Text.AsciiCase
import MediaGateway.Text.Blank

/-!
# Patterns

A rule of a filter may say what the value of a field looks like. Such a pattern is
a regular expression; what counts here is whether it is one that can be used.
Classes of characters are those of ASCII or are listed in brackets, and outside
ASCII case cannot be ignored. The edges of words are known in ASCII only.
-/

namespace MediaGateway.Log.Pattern

/-- Why a pattern cannot be used. -/
inductive Problem where
  /-- It is no pattern, or asks for what is not known. -/
  | malformed
  /-- It asks for the edges of words beyond ASCII. -/
  | wordEdge
  deriving DecidableEq, Repr

/-- The words for a problem. -/
def Problem.text : Problem → String
  | malformed => "error building NFA"
  | wordEdge =>
    "unsupported regex feature for DFAs: cannot build DFAs for regexes with Unicode word "
      ++ "boundaries; switch to ASCII word boundaries, or heuristically enable Unicode word "
      ++ "boundaries or use a different regex engine"

/-! ## Flags -/

/-- What is switched on. -/
structure Flags where
  /-- Characters are meant, and not octets. -/
  unicode : Bool
  /-- Case does not count. -/
  ignoresCase : Bool
  /-- Blanks and comments do not count. -/
  ignoresBlanks : Bool
  deriving DecidableEq, Repr

/-- The flags at the beginning. -/
def Flags.usual : Flags := ⟨true, false, false⟩

/-- The letters of the flags. -/
def flagLetters : List Char := ['i', 'm', 's', 'u', 'x', 'R', 'U']

/-- The flags with one of them switched. -/
def Flags.switch (on : Bool) (flags : Flags) : Char → Flags
  | 'u' => { flags with unicode := on }
  | 'i' => { flags with ignoresCase := on }
  | 'x' => { flags with ignoresBlanks := on }
  | _ => flags

/-- The flags after letters, of which those behind a hyphen are switched off. Each may be given
once, and something must follow the hyphen. -/
def Flags.read (flags : Flags) (letters : List Char) : Option Flags :=
  if letters.any (fun char => char ≠ '-' && !flagLetters.contains char)
      ∨ letters.eraseDups.length ≠ letters.length ∨ letters.getLast? = some '-' then none
  else
    let on := letters.takeWhile (· ≠ '-')
    let off := letters.drop on.length
    some (off.foldl (Flags.switch false) (on.foldl (Flags.switch true) flags))

/-- Whether a comment goes on, and the characters without blanks and comments in front. -/
def dropBlanks (inComment : Bool) : List Char → List Char
  | [] => []
  | char :: rest =>
    if inComment then dropBlanks (char ≠ '\n') rest
    else if Text.isBlank char then dropBlanks false rest
    else if char = '#' then dropBlanks true rest
    else char :: rest

/-- The characters that come next. -/
def Flags.ahead (flags : Flags) (chars : List Char) : List Char :=
  if flags.ignoresBlanks then dropBlanks false chars else chars

/-! ## Atoms -/

/-- What a single sign stands for. -/
inductive Atom where
  /-- A character. -/
  | char (value : Char)
  /-- A character that is written as the value of an octet. -/
  | octet (value : Char)
  /-- A class with a letter for its name, or all that is not in it. -/
  | named (isNegated : Bool)
  /-- An edge of a text or line. -/
  | edge
  /-- An edge of a word. -/
  | wordEdge
  /-- Any character. -/
  | any
  deriving DecidableEq, Repr

/-- Whether an atom can be used outside brackets. -/
def Atom.isUsable (flags : Flags) : Atom → Bool
  | char _ => !(flags.unicode && flags.ignoresCase)
  | octet value => if flags.unicode then !flags.ignoresCase else value.toNat < 0x80
  | named isNegated => !flags.unicode && !isNegated
  | edge => true
  | wordEdge => true
  | any => flags.unicode

/-- The character that an atom in brackets is, if it can be used there. -/
def Atom.member? (flags : Flags) : Atom → Option Char
  | char value => if flags.unicode || value.toNat < 0x80 then some value else none
  | octet value => if flags.unicode || value.toNat < 0x80 then some value else none
  | _ => none

/-- Whether an atom can be used in brackets. -/
def Atom.isMember (flags : Flags) (atom : Atom) : Bool :=
  match atom with
  | named isNegated => !flags.unicode && !isNegated
  | _ => (atom.member? flags).isSome

/-- The number that as many hexadecimal digits write, and what follows them. -/
def readHex (flags : Flags) : (count value : Nat) → List Char → Option (Nat × List Char)
  | 0, value, chars => some (value, chars)
  | count + 1, value, chars =>
    match flags.ahead chars with
    | [] => none
    | digit :: rest => do
      let next ← Bytes.hexValue? digit
      readHex flags count (value * 16 + next) rest

/-- The atom of a code point in hexadecimal digits. -/
def readCode (flags : Flags) (count : Nat) (chars : List Char) : Option (Atom × List Char) := do
  let (value, rest) ← readHex flags count 0 chars
  if value.isValidChar then
    let char := Char.ofNat value
    some (if count = 2 then .octet char else .char char, flags.ahead rest)
  else none

/-- Whether a character behind a backslash stands for itself. -/
def isEscapable (char : Char) : Bool :=
  char.toNat < 0x80 && !char.isAlphanum && char ≠ '<' && char ≠ '>'

/-- The atom behind a backslash, and what follows it. -/
def readEscape (flags : Flags) : List Char → Option (Atom × List Char)
  | [] => none
  | char :: rest =>
    if char = 'x' then readCode flags 2 rest
    else if char = 'u' then readCode flags 4 rest
    else if char = 'U' then readCode flags 8 rest
    else if ['d', 's', 'w'].contains char then some (.named false, rest)
    else if ['D', 'S', 'W'].contains char then some (.named true, rest)
    else if ['b', 'B', '<', '>'].contains char then some (.wordEdge, rest)
    else if ['A', 'z'].contains char then some (.edge, rest)
    else if ['a', 'f', 't', 'n', 'r', 'v'].contains char ∨ isEscapable char then
      some (.char char, rest)
    else none

/-! ## Classes in brackets -/

/-- The names of classes that stand between colons. -/
def classNames : List String :=
  ["alnum", "alpha", "ascii", "blank", "cntrl", "digit", "graph", "lower", "print", "punct",
    "space", "upper", "word", "xdigit"]

/-- Whether a class between colons follows an opening bracket, and what follows it then: whether
it is negated, and the characters behind it. -/
def readNamed? (chars : List Char) : Option (Bool × List Char) :=
  match chars with
  | ':' :: rest =>
    let isNegated := rest.head? = some '^'
    let inner := if isNegated then rest.drop 1 else rest
    let name := inner.takeWhile (· ≠ ':')
    match inner.drop name.length with
    | ':' :: ']' :: after =>
      if classNames.contains (String.ofList name) then some (isNegated, after) else none
    | _ => none
  | _ => none

/-- Where the reader of a class stands. -/
inductive ClassPlace where
  /-- Behind the opening bracket. -/
  | opening
  /-- Behind that and a circumflex, if there is one. -/
  | front
  /-- Behind hyphens in front. -/
  | hyphens
  /-- Further on. -/
  | inside
  deriving DecidableEq, Repr

/-- A member of a class, and what follows it. -/
def readMember (flags : Flags) : List Char → Option (Atom × List Char)
  | [] => none
  | '\\' :: rest => readEscape flags rest
  | char :: rest => some (.char char, rest)

/-- What follows a member or a range of members. -/
def readRange (flags : Flags) (chars : List Char) : Option (List Char) := do
  let (first, rest) ← readMember flags chars
  match flags.ahead rest with
  | [] => none
  | '-' :: after =>
    let next := flags.ahead after
    if next.head? = some ']' ∨ next.head? = some '-' then
      if first.isMember flags then some ('-' :: after) else none
    else do
      let (last, left) ← readMember flags next
      let low ← first.member? flags
      let high ← last.member? flags
      if low ≤ high then some left else none
  | after => if first.isMember flags then some after else none

/-- What follows the class that characters are inside of; `depth` more are open around it.
`fuel` bounds the steps. -/
def readClass (flags : Flags) (fuel depth : Nat) (place : ClassPlace) (chars : List Char) :
    Option (List Char) :=
  match fuel, place, flags.ahead chars with
  | 0, _, _ => none
  | _, _, [] => none
  | fuel + 1, .opening, '^' :: rest =>
    if flags.unicode then readClass flags fuel depth .front rest else none
  | fuel + 1, .opening, rest => readClass flags fuel depth .front rest
  | fuel + 1, .front, ']' :: rest => readClass flags fuel depth .inside rest
  | fuel + 1, .front, '-' :: rest => readClass flags fuel depth .hyphens rest
  | fuel + 1, .hyphens, '-' :: rest => readClass flags fuel depth .hyphens rest
  | fuel + 1, _, ']' :: rest =>
    match depth with
    | 0 => some rest
    | depth + 1 => readClass flags fuel depth .inside rest
  | fuel + 1, _, '[' :: rest =>
    match readNamed? rest with
    | some (isNegated, after) =>
      if flags.unicode || !isNegated then readClass flags fuel depth .inside after else none
    | none => readClass flags fuel (depth + 1) .opening rest
  | fuel + 1, _, '&' :: '&' :: rest => readClass flags fuel depth .inside rest
  | fuel + 1, _, '-' :: '-' :: rest => readClass flags fuel depth .inside rest
  | fuel + 1, _, '~' :: '~' :: rest => readClass flags fuel depth .inside rest
  | fuel + 1, _, rest => (readRange flags rest).bind (readClass flags fuel depth .inside)

/-! ## Whole patterns -/

/-- How far a pattern is read. -/
structure Reading where
  /-- The flags. -/
  flags : Flags
  /-- The flags around the groups that are open, the innermost first. -/
  around : List Flags
  /-- Whether something stands in front that may be repeated. -/
  hasItem : Bool
  /-- The names of groups. -/
  names : List (List Char)
  /-- Whether edges of words beyond ASCII were asked for. -/
  meetsWordEdge : Bool

/-- The reading at the beginning. -/
def Reading.start : Reading := ⟨.usual, [], false, [], false⟩

/-- The reading inside a group that has opened. -/
def Reading.opened (reading : Reading) (flags : Flags) : Reading :=
  { reading with flags := flags, around := reading.flags :: reading.around, hasItem := false }

/-- The reading behind an item. -/
def Reading.withItem (reading : Reading) : Reading := { reading with hasItem := true }

/-- The reading behind an atom. -/
def Reading.withAtom (reading : Reading) (atom : Atom) : Option Reading :=
  if atom.isUsable reading.flags then
    let meets := atom = .wordEdge && reading.flags.unicode
    some { reading.withItem with meetsWordEdge := reading.meetsWordEdge || meets }
  else none

/-- Whether characters are the name of a group. -/
def isGroupName : List Char → Bool
  | [] => false
  | first :: rest =>
    (first = '_' || Text.isAlphabetic first)
      && rest.all fun char => Text.isAlphanumeric char || "_.[]".contains char

/-- The reading inside a group with a name. -/
def Reading.openNamed (reading : Reading) (chars : List Char) : Option (Reading × List Char) :=
  let name := chars.takeWhile (· ≠ '>')
  if isGroupName name ∧ name.length < chars.length ∧ !reading.names.contains name then
    some ({ reading.opened reading.flags with names := name :: reading.names },
      chars.drop (name.length + 1))
  else none

/-- The reading behind a question mark at the front of a group: flags for the group, or for what
follows. -/
def Reading.openFlags (reading : Reading) (chars : List Char) : Option (Reading × List Char) := do
  let letters := chars.takeWhile fun char => char ≠ ':' && char ≠ ')'
  let flags ← reading.flags.read letters
  match chars.drop letters.length with
  | ':' :: rest => some (reading.opened flags, rest)
  | ')' :: rest =>
    if letters = [] then none else some ({ reading with flags := flags, hasItem := false }, rest)
  | _ => none

/-- The reading behind an opening parenthesis. -/
def Reading.openGroup (reading : Reading) (chars : List Char) : Option (Reading × List Char) :=
  match reading.flags.ahead chars with
  | '?' :: '=' :: _ => none
  | '?' :: '!' :: _ => none
  | '?' :: '<' :: '=' :: _ => none
  | '?' :: '<' :: '!' :: _ => none
  | '?' :: 'P' :: '<' :: rest => reading.openNamed rest
  | '?' :: '<' :: rest => reading.openNamed rest
  | '?' :: rest => reading.openFlags rest
  | rest => some (reading.opened reading.flags, rest)

/-- The reading behind the next sign, and what follows it. -/
def Reading.step (reading : Reading) (char : Char) (rest : List Char) :
    Option (Reading × List Char) :=
  match char with
  | '(' => reading.openGroup rest
  | ')' =>
    match reading.around with
    | [] => none
    | flags :: around => some ({ reading.withItem with flags := flags, around := around }, rest)
  | '|' => some ({ reading with hasItem := false }, rest)
  | '[' =>
    if reading.flags.unicode && reading.flags.ignoresCase then none
    else (readClass reading.flags (3 * rest.length + 3) 0 .opening rest).map fun left =>
      (reading.withItem, left)
  | '\x7b' => none
  | '\\' => do
    let (atom, left) ← readEscape reading.flags rest
    return (← reading.withAtom atom, left)
  | '.' => (reading.withAtom .any).map fun reading => (reading, rest)
  | char =>
    if char = '?' ∨ char = '*' ∨ char = '+' then
      if reading.hasItem then some (reading, if rest.head? = some '?' then rest.drop 1 else rest)
      else none
    else
      let atom : Atom := if char = '^' ∨ char = '$' then .edge else .char char
      (reading.withAtom atom).map fun reading => (reading, rest)

/-- The reading behind all characters; `fuel` bounds the signs. -/
def Reading.finish (fuel : Nat) (reading : Reading) (chars : List Char) : Option Reading :=
  match fuel, reading.flags.ahead chars with
  | _, [] => if reading.around = [] then some reading else none
  | 0, _ => none
  | fuel + 1, char :: rest =>
    (reading.step char rest).bind fun (next, left) => next.finish fuel left

/-- Why a text cannot be used as a pattern, unless it can. A closing brace never reaches it, so
an opening one counts nothing. -/
def problem? (text : String) : Option Problem :=
  match Reading.start.finish text.length text.toList with
  | none => some .malformed
  | some reading => if reading.meetsWordEdge then some .wordEdge else none

end MediaGateway.Log.Pattern
