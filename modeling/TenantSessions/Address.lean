import TenantSessions.Cache.Fault
import TenantSessions.Url

/-! The address of a cache server is a URL that names a host and the number of a service there, or
the path of a local socket. -/

namespace TenantSessions

/-- Where a cache server listens, and as whom to enter there. -/
inductive Address where
  | server (host : Host) (service : Nat) (database : Int64) (user password : Option String)
  | socket (path : List UInt8) (database : Int64) (user password : Option String)
deriving DecidableEq, Repr

namespace Address

/-- Why a text is no address of a cache server. -/
inductive Flaw where
  | unparsable
  | missingHost
  | missingPath
  | encryptionUnavailable
  | invalidDatabase
  | userNotText
  | passwordNotText
  | invalidProtocol (name : String)
deriving DecidableEq, Repr

/-- How messages describe why a text is no address. -/
def Flaw.message : Flaw → String
  | .unparsable => Fault.phrase "Redis URL did not parse" .clientConfig none
  | .missingHost => Fault.phrase "Missing hostname" .clientConfig none
  | .missingPath => Fault.phrase "Missing path" .clientConfig none
  | .encryptionUnavailable =>
    Fault.phrase "can't connect with TLS, the feature is not enabled" .clientConfig none
  | .invalidDatabase => Fault.phrase "Invalid database number" .clientConfig none
  | .userNotText => Fault.phrase "Username is not valid UTF-8 string" .clientConfig none
  | .passwordNotText => Fault.phrase "Password is not valid UTF-8 string" .clientConfig none
  | .invalidProtocol name => Fault.phrase "Invalid protocol version" .clientConfig (some name)

/-- The class of every fault of an address. -/
def Flaw.kind (_ : Flaw) : Fault.Kind := .clientConfig

/-- The number of the service where an address names none. -/
def defaultService : Nat := 6379

/-- The host whose name stands for the machine itself. -/
def localHost : String := "localhost"

/-- The number that a text names a database by. -/
def readDatabase (text : List Char) : Except Flaw Int64 :=
  (Decimal.readInteger text).mapError fun _ => .invalidDatabase

/-- Accepts the protocol versions two and three, by number or by name. -/
def checkProtocol (url : Url) : Except Flaw Unit :=
  match url.queryValue? "protocol" with
  | none => .ok ()
  | some name =>
    if ["2", "3", "resp2", "resp3"].contains name then .ok () else .error (.invalidProtocol name)

/-- Reads what percent signs spell, which must be text. -/
def readSpelled (text : String) (flaw : Flaw) : Except Flaw String :=
  match Text.decode? (Text.percentDecode text.toList) with
  | some text => .ok text
  | none => .error flaw

/-- The path of a URL without slashes at its ends. -/
def barePath (url : Url) : List Char :=
  let isSlash (c : Char) : Bool := c == '/'
  ((url.path.dropWhile isSlash).reverse.dropWhile isSlash).reverse

/-- The address of a server, whose path names a database. -/
def serverOf (url : Url) (encrypted : Bool) : Except Flaw Address := do
  -- The flaws are looked for in the order in which a client finds them.
  let some host := url.host | throw .missingHost
  if encrypted then throw .encryptionUnavailable
  let path := barePath url
  let database ← if path.isEmpty then pure 0 else readDatabase path
  let user ←
    if url.user.isEmpty then pure none else some <$> readSpelled url.user .userNotText
  let password ← url.password.mapM (readSpelled · .passwordNotText)
  checkProtocol url
  return .server host (url.service.getD defaultService) database user password

/-- The bytes of the path that a URL spells; if the path ends like the name of a drive, a slash
follows. -/
def socketPath (url : Url) : List UInt8 :=
  let path := Text.percentDecode url.path
  match path.reverse with
  -- Read from its end, the path shows the mark and the letter of a drive first.
  | mark :: letter :: _ :: _ =>
    if (Char.ofUInt8 letter).isAlpha && (mark == '|'.toUInt8 || mark == ':'.toUInt8) then
      path ++ ['/'.toUInt8]
    else path
  | _ => path

/-- The address of a socket on the machine itself, with the database named in the query. -/
def socketOf (url : Url) : Except Flaw Address := do
  -- A host may be left out, but if it is named it must be the machine itself.
  if !(url.host.all (· == .name localHost)) || url.path.head? != some '/' then throw .missingPath
  let database ← (url.queryValue? "db").elim (pure 0) fun number => readDatabase number.toList
  checkProtocol url
  return .socket (socketPath url) database (url.queryValue? "user") (url.queryValue? "pass")

/-- Reads the address of a cache server. -/
def read (text : String) : Except Flaw Address :=
  match Url.read text with
  | none => .error .unparsable
  | some url =>
    match url.scheme with
    | "redis" => serverOf url false
    | "valkey" => serverOf url false
    | "rediss" => serverOf url true
    | "valkeys" => serverOf url true
    | "unix" => socketOf url
    | "redis+unix" => socketOf url
    | "valkey+unix" => socketOf url
    | _ => .error .unparsable

end Address

end TenantSessions
