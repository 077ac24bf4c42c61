import MediaGateway.Bytes
import MediaGateway.Event
import MediaGateway.Log.Filter.Pattern
import MediaGateway.Text.Numeral

/-!
# Rules of a filter

A rule says from which level on events are written: those of a place whose path
begins in the given way, or with the given fields, or all of them. It may ask for
a span of time as well, or for the value of a field; there are no spans here that
such a rule could hold for.

A rule is written `place[span]=level`, with fields between braces behind the name
of the span. Each part may be missing. A level alone is a rule for everything, and
without a level everything is written.
-/

namespace MediaGateway.Log

/-- The least level that is written; nothing is written when there is none. -/
abbrev Threshold : Type := Option Level

/-- The rank of a level, the gravest lowest. -/
def rank : Level → Nat
  | .error => 1
  | .warn => 2
  | .info => 3
  | .debug => 4
  | .trace => 5

/-- Whether a level is grave enough. -/
def allows (threshold : Threshold) (level : Level) : Bool :=
  match threshold with
  | none => false
  | some least => rank level ≤ rank least

/-- A field that a rule asks for. -/
structure RuleField where
  /-- Its name. -/
  name : String
  /-- Whether the rule says what its value is. -/
  isValued : Bool
  deriving DecidableEq, Repr

/-- A rule. -/
structure Rule where
  /-- How the paths of places begin that it is for; it is for all when nothing is said. -/
  place : Option String
  /-- The span of time that it is for, if it is for one. -/
  span : Option String
  /-- The fields that it asks for. -/
  fields : List RuleField
  /-- From which level on it lets events be written. -/
  threshold : Threshold
  deriving DecidableEq, Repr

namespace Rule

/-- The rule for everything. -/
def everything (threshold : Threshold) : Rule := ⟨none, none, [], threshold⟩

/-- What is wrong with the text of a rule. -/
inductive Problem where
  /-- It is not built like a rule. -/
  | malformed
  /-- The level in it is none. -/
  | badLevel
  /-- The value of a field is given by a pattern that cannot be used. -/
  | badPattern (problem : Pattern.Problem)
  deriving DecidableEq, Repr

/-- The words for a problem. -/
def Problem.text : Problem → String
  | malformed => "invalid filter directive"
  | badLevel =>
    "error parsing level filter: expected one of \"off\", \"error\", \"warn\", "
      ++ "\"info\", \"debug\", \"trace\", or a number 0-5"
  | badPattern problem => "invalid field filter: " ++ problem.text

/-! ## Parts of rules -/

/-- The levels by number. -/
def numbered : List Threshold :=
  [none, some .error, some .warn, some .info, some .debug, some .trace]

/-- The levels by name. -/
def named : List (String × Threshold) :=
  [("off", none), ("error", some .error), ("warn", some .warn), ("info", some .info),
    ("debug", some .debug), ("trace", some .trace)]

/-- The threshold that a text writes: a number up to five or a name in any case. -/
def threshold? (text : String) : Option Threshold :=
  match (Text.readNatural (Nat.pow 2 64) text.toList).toOption.bind (numbered[·]?) with
  | some threshold => some threshold
  | none => (named.find? fun entry => Text.sameIgnoringCase entry.1 text).map (·.2)

/-- The threshold behind an equals sign; everything is written when it is empty. -/
def readThreshold (text : String) : Except Problem Threshold :=
  if text = "" then .ok (some .trace)
  else match threshold? text with
    | some threshold => .ok threshold
    | none => .error .badLevel

/-- The rule that a text without any signs writes: a level, or the beginning of paths. -/
def ofWord (text : String) : Rule :=
  match threshold? text with
  | some threshold => everything threshold
  | none => { everything (some .trace) with place := some text }

/-- The field that a text writes: a name, or a name and a value with an equals sign between
them. A value that is no number is a pattern. -/
def readField (text : String) : Except Problem RuleField :=
  match text.toList.splitOn '=' with
  | name :: value :: _ =>
    match if Text.isDecimal value then none else Pattern.problem? (String.ofList value) with
    | some problem => .error (.badPattern problem)
    | none => .ok ⟨String.ofList name, true⟩
  | _ => if text = "" then .error .malformed else .ok ⟨text, false⟩

/-! ## Reading -/

/-- Where the reader of a rule stands; a number is the place of the octet that the part begins
with which is being read. -/
inductive Place where
  /-- In front of everything. -/
  | front
  /-- In a word that is a level or the beginning of paths. -/
  | word (start : Nat)
  /-- In the name of a span. -/
  | span (start : Nat)
  /-- In a field. -/
  | field (start : Nat)
  /-- Behind the fields. -/
  | fieldsEnd
  /-- Behind the span. -/
  | spanEnd
  /-- In the level behind an equals sign. -/
  | level (start : Nat)
  deriving DecidableEq, Repr

/-- Whether a rule may begin with a character. -/
def mayBegin (char : Char) : Bool :=
  Text.isAlphanumeric char || char = '-' || char = ':' || char = '_'

/-- The text of the octets between two places. -/
def part (octets : Bytes) (start stop : Nat) : Except Problem String :=
  match Bytes.toText? ((octets.take stop).drop start) with
  | some text => .ok text
  | none => .error .malformed

/-- Goes on by a character at a place: the rule as far as it is read, and where the reader
stands then. -/
def step (octets : Bytes) (index : Nat) (rule : Rule) (char : Char) :
    Place → Except Problem (Rule × Place)
  | .front =>
    if char = '[' then .ok (rule, .span (index + 1))
    else if mayBegin char then .ok (rule, .word index)
    else .error .malformed
  | .word start =>
    if char = '=' ∨ char = '[' then do
      let place ← part octets start index
      let next := if char = '=' then Place.level (index + 1) else .span (index + 1)
      return ({ rule with place := some place }, next)
    else .ok (rule, .word start)
  | .span start =>
    if char = ']' then do
      let span ← part octets start index
      return ({ rule with span := some span }, .spanEnd)
    else if char = '\x7b' then do
      let span ← part octets start index
      return ({ rule with span := if span = "" then none else some span }, .field (index + 1))
    else .ok (rule, .span start)
  | .field start =>
    if char = '\x7d' then do
      let field ← readField (← part octets start index)
      return ({ rule with fields := rule.fields ++ [field] }, .fieldsEnd)
    else .ok (rule, .field start)
  | .fieldsEnd => if char = ']' then .ok (rule, .spanEnd) else .error .malformed
  | .spanEnd => if char = '=' then .ok (rule, .level (index + 1)) else .error .malformed
  | .level start => .ok (rule, .level start)

/-- The rule and the place of the reader behind all characters, of which the first one stands at
a place. -/
def walk (octets : Bytes) (index : Nat) (rule : Rule) (place : Place) :
    List Char → Except Problem (Rule × Place)
  | [] => .ok (rule, place)
  | char :: rest => do
    let (next, after) ← step octets index rule char place
    walk octets (index + char.utf8Size) next after rest

/-- The rule that a text writes. Blanks at its ends do not count for what is a part of it, but
the parts are cut from the whole text. -/
def read (text : String) : Except Problem Rule := do
  let octets := Bytes.ofText text
  let rest (start : Nat) := part octets start octets.length
  match ← walk octets 0 (everything (some .trace)) .front
      (Text.trimWhere Text.isBlank text.toList) with
  | (_, .word start) => return ofWord (← rest start)
  | (rule, .level start) => return { rule with threshold := ← readThreshold (← rest start) }
  | (rule, .spanEnd) => return rule
  | _ => .error .malformed

/-! ## Fitting -/

/-- Whether a rule can hold for an event: it asks for no span and for the value of no field. -/
def isPlain (rule : Rule) : Bool := rule.span = none && rule.fields.all fun field => !field.isValued

/-- Whether a rule holds for an event from a place with a path that has fields of the given
names. -/
def fits (path : String) (names : List String) (rule : Rule) : Bool :=
  rule.isPlain && rule.place.all (fun start => start.isPrefixOf path)
    && rule.fields.all fun field => names.contains field.name

/-- How much of a path a rule asks for. -/
def reach (rule : Rule) : Nat :=
  match rule.place with
  | none => 0
  | some start => start.utf8ByteSize + 1

/-- Whether of two rules that hold for one event the later one decides: the one that asks for
more of the path, for more fields, or for fields with names that come later. -/
def yields (earlier later : Rule) : Bool :=
  if earlier.reach ≠ later.reach then earlier.reach < later.reach
  else if earlier.fields.length ≠ later.fields.length then
    earlier.fields.length < later.fields.length
  else !(decide (later.fields.map RuleField.name < earlier.fields.map RuleField.name))

end Rule

end MediaGateway.Log
