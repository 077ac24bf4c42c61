import MediaGateway.Url.Reader

/-!
# References

An answer may say where else to ask by a reference: an address, or a part of one that the
address asked so far completes. Unlike an address in the settings it counts as it stands.
With a character that has no place in it, or with a percent sign that two hexadecimal digits
do not follow, it is no reference at all.
-/

namespace MediaGateway.Url

/-- The parts of a reference, as they are written. -/
structure Reference where
  /-- The scheme in small letters. -/
  scheme : Option String
  /-- The user, the host and the port behind two slashes. -/
  authority : Option (List Char)
  /-- The path. -/
  path : List Char
  /-- What follows the question mark. -/
  query : Option (List Char)
  /-- What follows the number sign. -/
  fragment : Option (List Char)
  deriving DecidableEq

/-- Characters up to a mark, and what follows it where it occurs. -/
def splitMark (mark : Char) (chars : List Char) : List Char × Option (List Char) :=
  match chars.dropWhile (· ≠ mark) with
  | [] => (chars, none)
  | _ :: rest => (chars.takeWhile (· ≠ mark), some rest)

/-! ## Characters in their places -/

/-- Characters that may stand in every part. -/
def isPlain (char : Char) : Bool := char.isAlphanum || ['-', '.', '_', '~'].contains char

/-- Characters that separate what a part holds. -/
def separates (char : Char) : Bool :=
  ['!', '$', '&', '\x27', '(', ')', '*', '+', ',', ';', '='].contains char

/-- Characters of a host that is a name. -/
def inName (char : Char) : Bool := isPlain char || separates char

/-- Characters of a user. -/
def inUser (char : Char) : Bool := inName char || char = ':'

/-- Characters of a path. -/
def inPlainPath (char : Char) : Bool := inUser char || char = '@' || char = '/'

/-- Characters of a query and of a fragment. -/
def inTail (char : Char) : Bool := inPlainPath char || char = '?'

/-- Whether a character is a hexadecimal digit. -/
def isHex (char : Char) : Bool := (Bytes.hexValue? char).isSome

/-- Whether characters are all allowed, or part of an encoded octet. -/
def consistsOf (allowed : Char → Bool) : List Char → Bool
  | [] => true
  | '%' :: high :: low :: rest => isHex high && isHex low && consistsOf allowed rest
  | char :: rest => allowed char && consistsOf allowed rest

/-- Whether characters in brackets are an address of the newer kind, or of a kind to come. -/
def isInBrackets (inside : List Char) : Bool :=
  match Net.takeIpv6 inside, inside with
  | some (_, []), _ => true
  | _, first :: rest =>
    match splitMark '.' rest with
    | (version, some behind) =>
      (first = 'v' || first = 'V') && version ≠ [] && version.all isHex && behind ≠ []
        && behind.all inUser
    | (_, none) => false
  | _, [] => false

/-- Whether characters are a host and perhaps a port. -/
def isHostAndPort : List Char → Bool
  | '[' :: rest =>
    match splitMark ']' rest with
    | (inside, some []) => isInBrackets inside
    | (inside, some (mark :: port)) => isInBrackets inside && mark = ':' && port.all Char.isDigit
    | (_, none) => false
  | chars =>
    let (name, port) := splitMark ':' chars
    consistsOf inName name && port.all (·.all Char.isDigit)

/-- Whether characters are a host and a port, perhaps with a user in front. -/
def isAuthority (chars : List Char) : Bool :=
  match splitMark '@' chars with
  | (user, some place) => consistsOf inUser user && isHostAndPort place
  | (place, none) => isHostAndPort place

namespace Reference

/-- The parts of characters. -/
def ofChars (chars : List Char) : Reference :=
  let (front, fragment) := splitMark '#' chars
  let (place, query) := splitMark '?' front
  let (scheme, rest) := match takeScheme place with
    | some (scheme, rest) => (some scheme, rest)
    | none => (none, place)
  match rest with
  | '/' :: '/' :: named =>
    ⟨scheme, some (named.takeWhile (· ≠ '/')), named.dropWhile (· ≠ '/'), query, fragment⟩
  | path => ⟨scheme, none, path, query, fragment⟩

/-- Whether every part holds only what may stand in it. Where nothing else comes before the path, a
colon in its first segment would end a scheme. -/
def isWellFormed (reference : Reference) : Bool :=
  reference.authority.all isAuthority && consistsOf inPlainPath reference.path
    && reference.query.all (consistsOf inTail) && reference.fragment.all (consistsOf inTail)
    && (reference.scheme.isSome || reference.authority.isSome
      || !(reference.path.takeWhile (· ≠ '/')).contains ':')

/-- The reference that characters write. -/
def read? (chars : List Char) : Option Reference :=
  let reference := ofChars chars
  if reference.isWellFormed then some reference else none

/-- The characters of a reference. -/
def chars (reference : Reference) : List Char :=
  let marked (mark : List Char) : Option (List Char) → List Char
    | none => []
    | some rest => mark ++ rest
  (match reference.scheme with
    | none => []
    | some scheme => scheme.toList ++ [':'])
    ++ marked ['/', '/'] reference.authority ++ reference.path ++ marked ['?'] reference.query
    ++ marked ['#'] reference.fragment

/-! ## Where a reference leads -/

/-- Segments behind others, when those of one dot are left out and those of two dots take one away;
at the end they leave a slash. -/
def settled (ahead : List (List Char)) : List (List Char) → List (List Char)
  | [] => ahead
  | [last] =>
    if last = ['.'] then ahead ++ [[]]
    else if last = ['.', '.'] then ahead.dropLast ++ [[]]
    else ahead ++ [last]
  | segment :: rest =>
    if segment = ['.'] then settled ahead rest
    else if segment = ['.', '.'] then settled ahead.dropLast rest
    else settled (ahead ++ [segment]) rest

/-- A path without dot segments. -/
def withoutDots : List Char → List Char
  | '/' :: rest => (settled [] (rest.splitOn '/')).flatMap ('/' :: ·)
  | path => if path = ['.'] ∨ path = ['.', '.'] then [] else path

/-- The place that a reference leads to from one that names a host. -/
def resolve (base reference : Reference) : Reference :=
  match reference.scheme, reference.authority, reference.path with
  | some _, _, path => { reference with path := withoutDots path }
  | none, some _, path => { reference with scheme := base.scheme, path := withoutDots path }
  | none, none, [] =>
    { base with query := reference.query.or base.query, fragment := reference.fragment }
  | none, none, '/' :: path =>
    { base with
      path := withoutDots ('/' :: path), query := reference.query, fragment := reference.fragment }
  | none, none, path =>
    let ahead := (base.path.reverse.dropWhile (· ≠ '/')).reverse
    { base with
      path := withoutDots (ahead ++ path), query := reference.query,
      fragment := reference.fragment }

end Reference

end MediaGateway.Url
