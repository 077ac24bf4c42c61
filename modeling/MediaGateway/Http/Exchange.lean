import MediaGateway.Http
import MediaGateway.Url.Reference

/-!
# Exchanges

An exchange sends a request and, while the answer leads elsewhere, sends the next
one there, ten times at most. A form is handed over once only, and a credential
stays with its host. The requests sent are recorded, whatever comes of them.
-/

namespace MediaGateway.Http

/-- Most redirections that are followed. -/
def redirectLimit : Nat := 10

/-- The longest address that can be sent. -/
def longestAddress : Nat := 65534

/-- Characters that a host may hold but no request can. -/
def unsendableInHost (char : Char) : Bool :=
  char = '"' || char = '\x60' || char = '\x7b' || char = '\x7d'

/-- Whether an address is one of the web. -/
def isWeb (url : Url) : Bool := url.scheme = "http" || url.scheme = "https"

/-- Whether an address is one of the web and names a host. -/
def isWebAddress (url : Url) : Bool := isWeb url && url.hasHost

/-- Whether a request can go to an address. -/
def isSendable (url : Url) : Bool :=
  isWebAddress url && (url.text.length ≤ longestAddress)
    && !(url.authority.any fun authority => authority.host.toList.any unsendableInHost)

/-- The port that an address means. -/
def portOf (url : Url) : Option Nat :=
  (url.authority.bind (·.port)).or (Url.usualPort? url.scheme)

/-- Whether two addresses have the same host and port. -/
def sameHost (left right : Url) : Bool :=
  left.authority.map (·.host) = right.authority.map (·.host) && portOf left = portOf right

/-! ## Where an answer leads -/

/-- Most colons that a host may have in front of an at sign or inside brackets. -/
def mostColons : Nat := 8

/-- Whether characters name a host, given the colons and whether there was a percent sign since the
last at sign or bracket: behind that stands at most one colon, and nothing encoded. -/
def namesHost (colons : Nat) (encoded : Bool) : List Char → Bool
  | [] => colons ≤ 1 && !encoded
  | char :: rest =>
    if char = '@' then rest ≠ [] && namesHost 0 false rest
    else if char = ']' then namesHost 0 false rest
    else if char = ':' then colons < mostColons && namesHost (colons + 1) encoded rest
    else namesHost colons (encoded || char = '%') rest

/-- The longest scheme that two slashes may follow. -/
def longestScheme : Nat := 64

/-- Whether a request can have a place for its address. Where no slashes announce a host, the whole
of it must look like one. -/
def isTarget (place : Url.Reference) : Bool :=
  place.chars.length ≤ longestAddress && match place.scheme, place.authority with
    | some scheme, some authority =>
      authority ≠ [] && scheme.length ≤ longestScheme && namesHost 0 false authority
    | none, some _ => false
    | _, none =>
      !place.path.contains '/' && place.query.isNone && place.fragment.isNone
        && namesHost 0 false place.chars

/-- The place that characters lead to from an address, if they are a reference and a request can
have the place for its address. -/
def target? (base : Url) (chars : List Char) : Option Url.Reference := do
  let reference ← Url.Reference.read? chars
  let known ← Url.Reference.read? { base with fragment := none }.text.toList
  let place := known.resolve reference
  if isTarget place then some place else none

/-- The address of a place. An address of the web keeps its path and its query as they are written,
and names a host only where slashes announced one. -/
def addressOf (place : Url.Reference) : Except Url.Problem Url := do
  let url ← Url.read (String.ofList { place with fragment := none }.chars)
  if !isWeb url then .ok url
  else if place.authority.isNone then .ok { url with authority := none }
  else .ok { url with
    path := .segments (((place.path.drop 1).splitOn '/').map String.ofList)
    query := place.query.map String.ofList }

/-- Whether a request by a method that is told to ask elsewhere asks there for what there is, and
hands over nothing. -/
def turns (method : Method) (status : Nat) : Bool :=
  ((status = 301 ∨ status = 302) ∧ method = .post) ∨ status = 303

/-- Whether a body can be handed over once more. A form is used up when it is sent. -/
def Body.isRepeatable : Body → Bool
  | empty => true
  | json _ => true
  | form _ => false

/-- Whether a status says to ask elsewhere, and the request can be sent there. -/
def isFollowed (request : Request) (status : Nat) : Bool :=
  [301, 302, 303, 307, 308].contains status
    && (turns request.method status || request.body.isRepeatable)

/-- What an answer leads to. -/
inductive Lead where
  /-- Nowhere else: the answer stands. -/
  | stays
  /-- To a place that is no address. -/
  | astray
  /-- To another address. -/
  | elsewhere (place : Url)
  deriving DecidableEq

/-- What the answer to a request leads to. It stands where it does not say where else to ask, and
also where what it says is no place for a request. -/
def lead (request : Request) (answer : Answer) : Lead :=
  if isFollowed request answer.status then
    let written := (answer.header? "location").bind Bytes.toText?
    let isBlank : Char → Bool := fun char => char = ' ' || char = '\t'
    match written.bind fun text => target? request.url (Text.trimWhere isBlank text.toList) with
    | none => .stays
    | some place =>
      match addressOf place with
      | .ok url => .elsewhere url
      | .error _ => .astray
  else .stays

/-- The request that follows when an answer with the given status leads to an address. -/
def redirected (request : Request) (status : Nat) (place : Url) : Request :=
  let authorization := if sameHost request.url place then request.authorization else none
  if turns request.method status then ⟨.get, place, authorization, .empty⟩
  else { request with url := place, authorization := authorization }

/-- What keeps a request from an address that an answer leads to, in an exchange that began with
`first`: another scheme than those of the web, or no host to connect to. -/
def obstacle? (first place : Url) : Option Problem :=
  if !isWeb place then some (.badAddress place)
  else if place.hasHost then none
  else some (.dropped first)

/-! ## Exchanges -/

/-- What came of an exchange, and the requests sent so far. -/
structure Exchanged where
  /-- The last answer, or why there is none. -/
  result : Except Problem Answer
  /-- The requests sent so far, the first of them first. -/
  sent : List Request

/-- Sends a request and follows at most so many redirections. What happens to a connection is told
of the address `first` that the exchange began with. -/
def exchange (provider : Provider) (first : Url) (redirections : Nat) (request : Request)
    (sent : List Request) : Exchanged :=
  let sent := sent ++ [request]
  match provider sent with
  | .refused => ⟨.error (.refused first), sent⟩
  | .dropped => ⟨.error (.dropped first), sent⟩
  | .silent => ⟨.error .timeout, sent⟩
  | .answered answer =>
    match lead request answer with
    | .stays => ⟨.ok answer, sent⟩
    | .astray => ⟨.error (.badAddress first), sent⟩
    | .elsewhere place =>
      match redirections with
      | 0 => ⟨.error (.tooManyRedirects { request.url with fragment := none }), sent⟩
      | redirections + 1 =>
        match obstacle? first place with
        | some problem => ⟨.error problem, sent⟩
        | none =>
          exchange provider first redirections (redirected request answer.status place) sent

/-- Sends a request, unless no request can go to its address. -/
def send (provider : Provider) (request : Request) (sent : List Request) : Exchanged :=
  if isSendable request.url then exchange provider request.url redirectLimit request sent
  else ⟨.error (.badAddress request.url), sent⟩

/-- The whole body of an answer. -/
def Answer.wholeBody (answer : Answer) : Except Problem Bytes :=
  match answer.bodyEnd with
  | .complete => .ok answer.body
  | .cut => .error .undecodable
  | .stalled => .error .timeout

/-- The body of an answer as text, empty when it does not come whole. -/
def Answer.bodyText (answer : Answer) : String :=
  match answer.wholeBody with
  | .ok body => body.toTextLenient
  | .error _ => ""

end MediaGateway.Http
