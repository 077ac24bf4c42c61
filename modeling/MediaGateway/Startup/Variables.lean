import MediaGateway.Text.Alphanumeric
import MediaGateway.Text.Blank

/-!
# Variables from a file

A file may set variables that the environment does not have. A line holds a name,
an equals sign and a value; a value may be quoted, may go on over several lines
while a quote is open, and may refer to other variables. What follows a number
sign after a blank does not count. The first line that cannot be read ends the
reading.
-/

namespace MediaGateway.Startup

/-- Named values in order. -/
abbrev Variables : Type := List (String × String)

/-- The value of a variable in an environment, which keeps each as the text `name=value`: what
follows the name and an equals sign in the first text that begins with them. -/
def Variables.value? (environment : Variables) (name : String) : Option String :=
  let front := name.toList ++ ['=']
  if name = "" then none
  else
    let texts := environment.map fun entry => entry.1.toList ++ '=' :: entry.2.toList
    (texts.find? front.isPrefixOf).map fun text => String.ofList (text.drop front.length)

/-- Where the reader of a line stands. -/
inductive LineState where
  /-- The line may end here. -/
  | complete
  /-- After a blank. -/
  | blank
  /-- After a backslash. -/
  | escape
  /-- Between apostrophes. -/
  | single
  /-- Between apostrophes, after a backslash. -/
  | singleEscape
  /-- Between double quotes. -/
  | double
  /-- Between double quotes, after a backslash. -/
  | doubleEscape
  deriving DecidableEq, Repr

/-- Where the reader stands after a character outside quotes. -/
def LineState.outside (char : Char) : LineState :=
  if char = '\\' then escape
  else if char = '"' then double
  else if char = '\x27' then single
  else complete

/-- Where the reader stands after a character; nothing when a comment begins. -/
def LineState.next? : LineState → Char → Option LineState
  | .blank, char => if char = '#' then none else some (outside char)
  | .escape, _ => some .complete
  | .complete, char =>
    if Text.isBlank char && char ≠ '\n' && char ≠ '\r' then some .blank else some (outside char)
  | .double, char =>
    some (if char = '\\' then .doubleEscape else if char = '"' then .complete else .double)
  | .doubleEscape, _ => some .double
  | .single, char =>
    some (if char = '\\' then .singleEscape else if char = '\x27' then .complete else .single)
  | .singleEscape, _ => some .single

/-- Reads characters: where the reader stands at the end, or the characters in front of a
comment; `seen` holds those already read, last first. -/
def scan (state : LineState) (seen : List Char) : List Char → LineState ⊕ List Char
  | [] => .inl state
  | char :: rest =>
    match state.next? char with
    | none => .inr seen.reverse
    | some next => scan next (char :: seen) rest

/-- Characters cut after every end of line. -/
def physicalLines : List Char → List (List Char)
  | [] => []
  | char :: rest =>
    if char = '\n' then [char] :: physicalLines rest
    else match physicalLines rest with
      | [] => [[char]]
      | line :: lines => (char :: line) :: lines

/-- A line without the end of line at its end. -/
def withoutLineEnd (line : List Char) : List Char :=
  match line.reverse with
  | '\n' :: '\r' :: rest => rest.reverse
  | '\n' :: rest => rest.reverse
  | _ => line

/-- The lines with what belongs together put together; nothing stands for a last line that is
not complete. `carried` holds what is open so far. -/
def logicalLines (state : LineState) (carried : List Char) :
    List (List Char) → List (Option (List Char))
  | [] => if state = .complete then [] else [none]
  | line :: rest =>
    let whole := carried ++ line
    if (whole.dropWhile Text.isBlank).head? = some '#' then
      some [] :: logicalLines .complete [] rest
    else match scan state [] line with
      | .inr before => some (carried ++ before) :: logicalLines .complete [] rest
      | .inl .complete => some (withoutLineEnd whole) :: logicalLines .complete [] rest
      | .inl unfinished => logicalLines unfinished whole rest

/-- Where the reader of a value stands. -/
inductive ValuePlace where
  /-- Outside everything. -/
  | plain
  /-- After a backslash. -/
  | escaped
  /-- Between apostrophes. -/
  | single
  /-- In the name of a variable that is referred to, last character first. -/
  | reference (name : List Char)
  /-- In such a name between braces. -/
  | braced (name : List Char)
  /-- Behind the value. -/
  | ended
  /-- In the comment behind the value. -/
  | comment
  deriving DecidableEq, Repr

/-- A value that is being read. -/
structure ValueReader where
  /-- Where the reader stands. -/
  place : ValuePlace
  /-- Whether a double quote is open. -/
  quoted : Bool
  /-- The value so far, last character first. -/
  written : List Char
  deriving DecidableEq, Repr

namespace ValueReader

/-- Before the first character. -/
def initial : ValueReader := ⟨.plain, false, []⟩

/-- The value of a variable that is referred to by a name, last character first: from the
environment, else as the file set it, else nothing. -/
def referred (environment known : Variables) (name : List Char) : List Char :=
  let key := String.ofList name.reverse
  ((environment.value? key).or (known.lookup key)).getD "" |>.toList

/-- The value with that of a variable behind it. -/
def fill (environment known : Variables) (name written : List Char) : List Char :=
  (referred environment known name).reverse ++ written

/-- After a character outside of every special place. -/
def plainly (reader : ValueReader) (char : Char) : Option ValueReader :=
  let go (place : ValuePlace) := some { reader with place }
  let write := some { reader with written := char :: reader.written }
  if char = '$' then go (.reference [])
  else if char = '\\' then go .escaped
  else if reader.quoted then
    if char = '"' then some { reader with quoted := false } else write
  else if char = '\x27' then go .single
  else if char = '"' then some { reader with quoted := true }
  else if char = ' ' || char = '\t' then go .ended
  else write

/-- After a character that follows a backslash. -/
def escapedly (reader : ValueReader) (char : Char) : Option ValueReader :=
  if char = '\\' || char = '\x27' || char = '"' || char = '$' || char = ' ' then
    some { reader with place := .plain, written := char :: reader.written }
  else if char = 'n' then some { reader with place := .plain, written := '\n' :: reader.written }
  else none

/-- After a character of a name that is referred to, or the first behind it. -/
def referring (environment known : Variables) (reader : ValueReader) (name : List Char)
    (char : Char) : ValueReader :=
  if Text.isAlphanumeric char then { reader with place := .reference (char :: name) }
  else if char = '\x7b' ∧ name = [] then { reader with place := .braced [] }
  else
    let filled := fill environment known name reader.written
    if char = '$' then { reader with place := .reference [], written := filled }
    else { reader with place := .plain, written := char :: filled }

/-- After a character; nothing when it must not stand there. -/
def read? (environment known : Variables) (reader : ValueReader) (char : Char) :
    Option ValueReader :=
  match reader.place with
  | .plain => reader.plainly char
  | .escaped => reader.escapedly char
  | .single =>
    if char = '\x27' then some { reader with place := .plain }
    else some { reader with written := char :: reader.written }
  | .reference name => some (referring environment known reader name char)
  | .braced name =>
    if char = '\x7d' then
      some { reader with place := .plain, written := fill environment known name reader.written }
    else some { reader with place := .braced (char :: name) }
  | .ended =>
    if char = ' ' || char = '\t' then some reader
    else if char = '#' then some { reader with place := .comment }
    else none
  | .comment => some reader

/-- The value at the end; nothing when something is still open. -/
def finish? (environment known : Variables) (reader : ValueReader) : Option (List Char) :=
  if reader.quoted then none
  else match reader.place with
    | .single | .braced _ => none
    | .reference name => some (fill environment known name reader.written).reverse
    | _ => some reader.written.reverse

end ValueReader

/-- Reads a value. -/
def readValue (environment known : Variables) (chars : List Char) : Option (List Char) :=
  (chars.foldlM (ValueReader.read? environment known) .initial).bind
    (ValueReader.finish? environment known)

/-- Whether a name may begin with a character. -/
def beginsName (char : Char) : Bool := char.isAlpha || char = '_'

/-- Whether a name may hold a character. -/
def inName (char : Char) : Bool := char.isAlphanum || char = '_' || char = '.'

/-- The name in front of characters, and what follows it. -/
def takeName (chars : List Char) : Option (List Char × List Char) :=
  if chars.head?.any beginsName then some (chars.takeWhile inName, chars.dropWhile inName)
  else none

/-- What follows an equals sign, with blanks around it. -/
def afterEquals (chars : List Char) : Option (List Char) :=
  match chars.dropWhile Text.isBlank with
  | '=' :: rest => some (rest.dropWhile Text.isBlank)
  | _ => none

/-- The name that a line sets, and the characters of its value. A word in front that says that
the variable is handed on does not count. -/
def splitLine (line : List Char) : Option (List Char × List Char) := do
  let (name, rest) ← takeName line
  match afterEquals rest with
  | some value => return (name, value)
  | none =>
    if name = ['e', 'x', 'p', 'o', 'r', 't'] then
      let (name, rest) ← takeName (rest.dropWhile Text.isBlank)
      let value ← afterEquals rest
      return (name, value)
    else none

/-- What a line sets, if anything; an error when it cannot be read. -/
def readLine (environment known : Variables) (line : List Char) :
    Except Unit (Option (String × String)) :=
  match Text.trimWhere Text.isBlank line with
  | [] => .ok none
  | '#' :: _ => .ok none
  | chars =>
    match splitLine chars with
    | none => .error ()
    | some (name, value) =>
      if value.head?.all (· = '#') then .ok (some (String.ofList name, ""))
      else match readValue environment known value with
        | none => .error ()
        | some content => .ok (some (String.ofList name, String.ofList content))

/-- The environment with what lines set beside it; `known` holds what they set so far, the last
first. -/
def setLines (environment known : Variables) : List (Option (List Char)) → Variables
  | [] => environment
  | none :: _ => environment
  | some line :: rest =>
    match readLine environment known line with
    | .error () => environment
    | .ok none => setLines environment known rest
    | .ok (some (name, value)) =>
      let extended :=
        if (environment.value? name).isSome then environment else environment ++ [(name, value)]
      setLines extended ((name, value) :: known) rest

/-- The variable that an entry of the environment sets. The first equals sign that does not begin
the entry stands between name and value; an entry without it sets nothing. -/
def readEntry (entry : String) : Option (String × String) :=
  match entry.toList with
  | [] => none
  | first :: rest =>
    match rest.dropWhile (· ≠ '=') with
    | [] => none
    | _ :: value =>
      some (String.ofList (first :: rest.takeWhile (· ≠ '=')), String.ofList value)

/-- The variables that the entries of the environment set. -/
def Variables.ofEntries (entries : List String) : Variables := entries.filterMap readEntry

/-- The environment with what a file sets beside it. -/
def Variables.withFile (environment : Variables) (content : String) : Variables :=
  let chars := match content.toList with
    | '\uFEFF' :: rest => rest
    | chars => chars
  setLines environment [] (logicalLines .complete [] (physicalLines chars))

end MediaGateway.Startup
