import TenantSessions.Url.Host
import TenantSessions.Url.Path
import TenantSessions.Text.Encoded

/-! A URL names a scheme and, as far as it has them, a user, a host, a service there, a path and a
query. -/

namespace TenantSessions

/-- The parts of a URL; user and password stand as they are written. -/
structure Url where
  scheme : String
  user : String
  password : Option String
  host : Option Host
  service : Option Nat
  path : List Char
  query : List (String × String)
deriving DecidableEq, Repr

namespace Url

/-- Who is to be let in, where, and what follows. -/
structure Site where
  user : List Char
  password : Option (List Char)
  host : Option Host
  service : Option Nat
  rest : List Char
deriving DecidableEq, Repr

/-- The largest number of a service on a host. -/
def maxService : Nat := 65535

/-- Takes controls and spaces off both ends, and tabs and line ends from anywhere. -/
def clean (text : List Char) : List Char :=
  let isEdge (c : Char) : Bool := c.toNat ≤ 0x20
  ((text.dropWhile isEdge).reverse.dropWhile isEdge).reverse.filter fun c =>
    c != '\t' && c != '\n' && c != '\r'

/-- The scheme of a URL in lower case, and what follows its colon. -/
def readScheme (text : List Char) : Option (String × List Char) :=
  let isSchemeCharacter (c : Char) : Bool := c.isAlphanum || c == '+' || c == '-' || c == '.'
  match Text.cutAt (!isSchemeCharacter ·) text with
  | (first :: scheme, ':' :: rest) =>
    if first.isAlpha then some (String.ofList ((first :: scheme).map Char.toLower), rest) else none
  | _ => none

/-- Splits off the user before the last at-sign, if there is one. -/
def cutUser (site : List Char) : Option (List Char) × List Char :=
  -- Read from its end, the site shows its last at-sign first.
  match Text.cutAt (· == '@') site.reverse with
  | (host, _ :: user) => (some user.reverse, host.reverse)
  | (_, []) => (none, site)

/-- Cuts the host from its service at the first colon outside brackets. -/
def cutService (text : List Char) : List Char × List Char :=
  match text with
  | '[' :: _ =>
    -- The colons of a number stand within its brackets.
    let (number, rest) := Text.cutAt (· == ']') text
    let (more, service) := Text.cutAt (· == ':') rest
    (number ++ more, service)
  | _ => Text.cutAt (· == ':') text

/-- The number of the service behind a host, and what follows it: nothing, or a backslash and more.
-/
def readService (text : List Char) : Option (Option Nat × List Char) :=
  match text with
  | [] => some (none, [])
  | _ :: text =>
    let digits := text.takeWhile Char.isDigit
    let rest := text.dropWhile Char.isDigit
    -- A backslash behind the service is as good as the slash of a path.
    if rest.isEmpty || rest.head? == some '\\' then
      match digits, Decimal.readMagnitude maxService .tooLarge digits with
      | [], _ => some (none, rest)
      | _, .ok service => some (some service, rest)
      | _, .error _ => none
    else none

/-- Whether a URL may go without a host: not behind a user or before a service, nor between an
at-sign and more. -/
def mayLackHost (user : Option (List Char)) (service rest : List Char) : Bool :=
  service.isEmpty &&
    match user with
    | none => true
    | some [] => rest.isEmpty
    | some name => name == [':']

/-- Cuts the password from the user at the first colon; an empty one is none. -/
def cutPassword (user : List Char) : List Char × Option (List Char) :=
  match Text.cutAt (· == ':') user with
  | (name, _ :: []) => (name, none)
  | (name, _ :: password) => (name, some password)
  | (name, []) => (name, none)

/-- Reads user, host and service, which end at a slash, a question mark or a number sign. -/
def readSite (text : List Char) : Option Site := do
  let (site, rest) := Text.cutAt (fun c => c == '/' || c == '?' || c == '#') text
  let (user, place) := cutUser site
  let (name, password) := cutPassword (user.getD [])
  let (host, service) := cutService place
  let host ← Host.read? host
  -- A name without characters is no host, and the URL may do without only in some forms.
  if host = .name "" then
    if mayLackHost user service rest then
      some { user := name, password := password, host := none, service := none, rest := rest }
    else none
  else
    let (service, behind) ← readService service
    return {
      user := name, password := password, host := some host, service := service,
      rest := behind ++ rest }

/-- Reads a name or a value: a plus sign is a space, and percent signs spell bytes. -/
def readPart (text : List Char) : String :=
  Text.decode (Text.percentDecode (text.map fun c => if c = '+' then ' ' else c))

/-- Reads the names and values of a query. -/
def readQuery (text : List Char) : List (String × String) :=
  -- Empty pairs are passed over, but a name may be empty, and so may a value.
  ((text.splitOn '&').filter fun pair => !pair.isEmpty).map fun pair =>
    let (name, value) := Text.cutAt (· == '=') pair
    (readPart name, readPart (value.drop 1))

/-- Cuts the query from what stands before it, and drops the fragment. -/
def cutQuery (text : List Char) : List Char × List (String × String) :=
  let (path, query) := Text.cutAt (· == '?') (Text.cutAt (· == '#') text).1
  (path, readQuery (query.drop 1))

/-- Reads a URL, in which a site follows two slashes. -/
def read (text : String) : Option Url := do
  let (scheme, rest) ← readScheme (clean text.toList)
  match rest with
  | '/' :: '/' :: place =>
    let site ← readSite place
    let (path, query) := cutQuery site.rest
    return {
      scheme := scheme, user := String.ofList site.user,
      password := site.password.map String.ofList, host := site.host, service := site.service,
      path := readPath path, query := query }
  | _ =>
    let (path, query) := cutQuery rest
    -- Without a site there may be no slash, and then dots are not followed.
    let path := if path.head? = some '/' then readPath path else path
    return {
      scheme := scheme, user := "", password := none, host := none, service := none,
      path := path, query := query }

/-- The value of a name in the query; of several the last counts. -/
def queryValue? (url : Url) (name : String) : Option String :=
  url.query.reverse.lookup name

end Url

end TenantSessions
