import MediaGateway.Log.Filter.Rule

/-!
# Which events are written

A filter is a list of rules. Of the rules that hold for an event the one that asks
for most decides, of equals the last.
-/

namespace MediaGateway.Log

/-- A filter. -/
abbrev Filter : Type := List Rule

namespace Filter

/-- The texts of rules between commas. -/
def ruleTexts (text : String) : List String :=
  ((text.toList.splitOn ',').filter (· ≠ [])).map String.ofList

/-- The filter that a text writes, provided that all its rules can be read. -/
def read (text : String) : Except Rule.Problem Filter := (ruleTexts text).mapM Rule.read

/-- The filter that a text writes, with complaints about the rules that are passed over. When no
rule is left, errors are written. -/
def readLenient (text : String) : Filter × List String :=
  let readings := (ruleTexts text).map fun rule => (rule, Rule.read rule)
  let rules := readings.filterMap fun reading => reading.2.toOption
  (if rules = [] then [.everything (some .error)] else rules,
    readings.filterMap fun reading => match reading.2 with
      | .error problem => some ("ignoring \x60" ++ reading.1 ++ "\x60: " ++ problem.text)
      | .ok _ => none)

/-- The rule that decides about an event from a place with a path that has fields of the given
names. -/
def deciding? (filter : Filter) (path : String) (names : List String) : Option Rule :=
  (filter.filter (Rule.fits path names)).foldl (fun held next =>
    match held with
    | none => some next
    | some rule => if rule.yields next then some next else some rule) none

/-- Whether an event from a place with a path that has fields of the given names is written at
a level. -/
def writes (filter : Filter) (path : String) (names : List String) (level : Level) : Bool :=
  match filter.deciding? path names with
  | some rule => allows rule.threshold level
  | none => false

end Filter

end MediaGateway.Log
