import MediaGateway.Text.AsciiCase
import MediaGateway.Text.Blank
import MediaGateway.Url

/-!
# Reading addresses

Blank and control characters around an address do not count, nor do tabs and ends
of lines inside it. The name of a user is passed over. A text without a scheme is
an address only where another one says what it is relative to.
-/

namespace MediaGateway.Url

/-- The characters of an address that count. -/
def countingChars (text : String) : List Char :=
  (Text.trimWhere (fun char => char.toNat ≤ 0x20) text.toList).filter fun char => !isBreak char

/-- Whether a character may stand in a scheme. -/
def isSchemeChar (char : Char) : Bool :=
  char.isAlphanum || char = '+' || char = '-' || char = '.'

/-- The scheme in front of characters, in small letters, and what follows its colon. -/
def takeScheme (chars : List Char) : Option (String × List Char) :=
  if chars.head?.any Char.isAlpha then
    match chars.dropWhile isSchemeChar with
    | ':' :: rest =>
      some (String.ofList ((chars.takeWhile isSchemeChar).map Text.lowerAscii), rest)
    | _ => none
  else none

/-- Whether a character separates segments. -/
def isSlash (special : Bool) (char : Char) : Bool := char = '/' || (special && char = '\\')

/-- Whether a character ends host and port. -/
def endsAuthority (special : Bool) (char : Char) : Bool :=
  isSlash special char || char = '?' || char = '#'

/-- The fragment that characters begin with. -/
def readFragment : List Char → Option String
  | '#' :: rest => some (percentEncode reservedInFragment rest)
  | _ => none

/-- The query and the fragment that characters begin with. -/
def readTail (special : Bool) : List Char → Option String × Option String
  | '?' :: rest =>
    (some (percentEncode (reservedInQuery special) (rest.takeWhile (· ≠ '#'))),
      readFragment (rest.dropWhile (· ≠ '#')))
  | chars => (none, readFragment chars)

/-- The segments that the characters of a path add to those before them. -/
def readSegments (kind : Kind) (ahead : List String) (chars : List Char) : List String :=
  settleAll kind.isFile ahead
    ((chars.splitOnP (isSlash kind.isSpecial)).map (percentEncode reservedInPath))

/-- Characters without one slash in front. -/
def dropSlash (special : Bool) : List Char → List Char
  | first :: rest => if isSlash special first then rest else first :: rest
  | [] => []

/-- The address with a scheme and a host whose path, query and fragment characters write. -/
def readPlace (scheme : String) (authority : Option Authority) (chars : List Char) : Url :=
  let kind := Kind.ofScheme scheme
  let path := chars.takeWhile inPath
  let (query, fragment) := readTail kind.isSpecial (chars.dropWhile inPath)
  let names :=
    if path = [] ∧ kind = .other then []
    else readSegments kind [] (dropSlash kind.isSpecial path)
  ⟨scheme, authority, .segments names, query, fragment⟩

/-- The port that characters write, and what follows it. -/
def readPort (scheme : String) (chars : List Char) : Except Problem (Option Nat × List Char) :=
  let digits := chars.takeWhile Char.isDigit
  match Text.readDigits 65536 0 digits, chars.dropWhile Char.isDigit with
  | .error _, _ => .error .badPort
  | .ok value, rest =>
    if rest.head?.all (· = '\\') then
      .ok (if digits = [] ∨ usualPort? scheme = some value then none else some value, rest)
    else .error .badPort

/-- How many of the characters belong to the host: all up to a colon outside brackets. -/
def hostLength (inside : Bool) : List Char → Nat
  | [] => 0
  | char :: rest =>
    if char = ':' && !inside then 0
    else hostLength ((inside || char = '[') && char ≠ ']') rest + 1

/-- The name of a user in front of the last at sign, if there is one, and what follows it. -/
def splitUser (chars : List Char) : Option (List Char) × List Char :=
  let host := (chars.reverse.takeWhile (· ≠ '@')).reverse
  if host.length = chars.length then (none, chars)
  else (some (chars.take (chars.length - host.length - 1)), host)

/-- The address that follows two slashes. -/
def readAuthority (scheme : String) (chars : List Char) : Except Problem Url := do
  let special := (Kind.ofScheme scheme).isSpecial
  let named := chars.takeWhile fun char => !endsAuthority special char
  let rest := chars.dropWhile fun char => !endsAuthority special char
  let (user, place) := splitUser named
  let length := hostLength false place
  let written := place.take length
  if written = [] ∧ (special ∨ place ≠ []) then .error .emptyHost
  else
    let userAlone : Bool := match user with
      | none => false
      | some [] => rest ≠ []
      | some name => name ≠ [':']
    if written = [] ∧ userAlone = true then .error .emptyHost
    else
      let host ← if special then readHost written else readPlainHost written
      match place.drop length with
      | [] => .ok (readPlace scheme (some ⟨host, none⟩) rest)
      | _ :: digits =>
        let (port, left) ← readPort scheme digits
        .ok (readPlace scheme (some ⟨host, port⟩) (left ++ rest))

/-- The address of a file with a host and the characters of path, query and fragment. The host
does not count where the path begins with a drive. -/
def readFilePlace (host : String) (chars : List Char) : Url :=
  let (query, fragment) := readTail true (chars.dropWhile inPath)
  let names := readSegments .file [] (dropSlash true (chars.takeWhile inPath))
  let held := if names.head?.any fun name => (drive? name).isSome then "" else host
  ⟨"file", some ⟨held, none⟩, .segments (collapsed names), query, fragment⟩

/-- The address of a file that follows its scheme. A drive in place of the host begins the
path. -/
def readFile (chars : List Char) : Except Problem Url :=
  match chars with
  | first :: second :: rest =>
    if isSlash true first && isSlash true second then
      let written := rest.takeWhile fun char => !endsAuthority true char
      let left := rest.dropWhile fun char => !endsAuthority true char
      if (drive? (String.ofList written)).isSome then .ok (readFilePlace "" rest)
      else if written = [] then .ok (readFilePlace "" left)
      else do
        let host ← readHost written
        .ok (readFilePlace (if host = "localhost" then "" else host) left)
    else .ok (readFilePlace "" chars)
  | _ => .ok (readFilePlace "" chars)

/-- The address that follows a scheme. -/
def readAfterScheme (scheme : String) (chars : List Char) : Except Problem Url :=
  match Kind.ofScheme scheme, chars with
  | .web, _ => readAuthority scheme (chars.dropWhile (isSlash true))
  | .file, _ => readFile chars
  | .other, '/' :: '/' :: rest => readAuthority scheme rest
  | .other, '/' :: _ => .ok (readPlace scheme none chars)
  | .other, _ =>
    let (query, fragment) := readTail false (chars.dropWhile inPath)
    .ok ⟨scheme, none, .plain (percentEncode isUnprintable (chars.takeWhile inPath)), query,
      fragment⟩

/-- The address that a text writes. -/
def read (text : String) : Except Problem Url :=
  match takeScheme (countingChars text) with
  | some (scheme, rest) => readAfterScheme scheme rest
  | none => .error .relative

/-- The address that characters without a scheme write relative to one of the web. -/
def readRelative (base : Url) (chars : List Char) : Except Problem Url :=
  let names := match base.path with
    | .segments names => names
    | .plain _ => []
  let (query, fragment) := readTail true (chars.dropWhile inPath)
  match chars.takeWhile inPath with
  | [] =>
    .ok { base with
      query := if chars.head? = some '?' then query else base.query
      fragment := fragment }
  | first :: path =>
    if isSlash true first then
      if path.head?.any (isSlash true) then
        readAuthority base.scheme (chars.dropWhile (isSlash true))
      else
        .ok { base with
          path := .segments (readSegments base.kind [] path)
          query := query
          fragment := fragment }
    else
      .ok { base with
        path := .segments (readSegments base.kind names.dropLast (first :: path))
        query := query
        fragment := fragment }

/-- The address that a text writes where an address of the web says what it is relative to. -/
def join (base : Url) (text : String) : Except Problem Url :=
  let chars := countingChars text
  match takeScheme chars with
  | none => readRelative base chars
  | some (scheme, rest) =>
    let slashes := rest.head?.any (isSlash true) && (rest.drop 1).head?.any (isSlash true)
    if scheme = base.scheme ∧ slashes = false then readRelative base rest
    else readAfterScheme scheme rest

end MediaGateway.Url
