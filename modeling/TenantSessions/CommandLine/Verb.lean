import TenantSessions.CommandLine.Order

/-! Verbs are the commands of the command line, and slots the arguments that they take. -/

namespace TenantSessions.CommandLine

/-- An argument with a value. -/
inductive Slot where
  | org
  | user
  | bearer
  | apiToken
  | seconds
  | token
  /-- A token that stands by itself, without the name of an option. -/
  | bareToken
deriving DecidableEq, Repr

namespace Slot

/-- The name of the option that fills a slot, if an option does. -/
def option? : Slot → Option String
  | .org => some "org"
  | .user => some "user"
  | .bearer => some "jwt"
  | .apiToken => some "api-token"
  | .seconds => some "ttl-secs"
  | .token => some "token"
  | .bareToken => none

/-- The value of a slot as usage texts name it. -/
def placeholder : Slot → String
  | .org => "<ORG>"
  | .user => "<USER>"
  | .bearer => "<JWT>"
  | .apiToken => "<API_TOKEN>"
  | .seconds => "<TTL_SECS>"
  | .token => "<TOKEN>"
  | .bareToken => "<TOKEN>"

/-- A slot as usage texts show it. -/
def shown (slot : Slot) : String :=
  match slot.option? with
  | some name => "--" ++ name ++ " " ++ slot.placeholder
  | none => slot.placeholder

/-- What help texts say about a slot. -/
def about : Slot → String
  | .bearer => "Bearer token to bind to the session [default: \"\"]"
  | .apiToken => "API token to bind and index [default: \"\"]"
  | .seconds => "Session lifetime in seconds (defaults to SESSION_TTL)"
  | _ => ""

end Slot

/-- The values that a command line has given so far. -/
structure Given where
  org : Option Id
  user : Option Id
  bearer : Option String
  apiToken : Option String
  seconds : Option UInt64
  token : Option String
deriving DecidableEq, Repr

namespace Given

/-- Before the first argument nothing is given. -/
def nothing : Given where
  org := none
  user := none
  bearer := none
  apiToken := none
  seconds := none
  token := none

/-- Whether a slot has been filled. -/
def has (given : Given) : Slot → Bool
  | .org => given.org.isSome
  | .user => given.user.isSome
  | .bearer => given.bearer.isSome
  | .apiToken => given.apiToken.isSome
  | .seconds => given.seconds.isSome
  | .token => given.token.isSome
  | .bareToken => given.token.isSome

/-- Fills a slot with a value. -/
def fill (given : Given) (slot : Slot) (value : String) : Except Decimal.Flaw Given :=
  match slot with
  | .org => (Decimal.readInteger value.toList).map fun id => { given with org := some id }
  | .user => (Decimal.readInteger value.toList).map fun id => { given with user := some id }
  | .bearer => .ok { given with bearer := some value }
  | .apiToken => .ok { given with apiToken := some value }
  | .seconds => (Decimal.readWord value.toList).map fun span => { given with seconds := some span }
  | .token => .ok { given with token := some value }
  | .bareToken => .ok { given with token := some value }

/-- The identity that has been given, if it is complete. -/
def who? (given : Given) : Option Identity := do
  let org ← given.org
  let user ← given.user
  return { org := org, user := user }

end Given

/-- A command of the command line. -/
inductive Verb where
  | create
  | checkBearer
  | resolve
  | revoke
  | revokeOrg
deriving DecidableEq, Repr

namespace Verb

/-- The commands in the order in which help lists them. -/
def all : List Verb :=
  [.create, .checkBearer, .resolve, .revoke, .revokeOrg]

/-- The word for a command. -/
def name : Verb → String
  | .create => "create"
  | .checkBearer => "check-jwt"
  | .resolve => "check-api-token"
  | .revoke => "revoke"
  | .revokeOrg => "revoke-org"

/-- What help says about a command. -/
def about : Verb → String
  | .create => "Create or overwrite a session"
  | .checkBearer => "Check a bearer token against the live session"
  | .resolve => "Resolve an API token to its identity"
  | .revoke => "Delete one session"
  | .revokeOrg => "Delete every session of an org"

/-- The arguments that a command cannot do without. -/
def required : Verb → List Slot
  | .create => [.org, .user]
  | .checkBearer => [.org, .user, .token]
  | .resolve => [.bareToken]
  | .revoke => [.org, .user]
  | .revokeOrg => [.org]

/-- The arguments that a command can do without. -/
def optional : Verb → List Slot
  | .create => [.bearer, .apiToken, .seconds]
  | _ => []

/-- All arguments of a command. -/
def slots (verb : Verb) : List Slot :=
  verb.required ++ verb.optional

/-- The command of a word. -/
def ofName? (name : String) : Option Verb :=
  all.find? fun verb => verb.name == name

/-- The argument that an option of a command fills. -/
def slotOf? (verb : Verb) (option : String) : Option Slot :=
  verb.slots.find? fun slot => slot.option? == some option

/-- Whether a command takes a token without the name of an option. -/
def takesBareToken (verb : Verb) : Bool :=
  verb.slots.contains .bareToken

/-- The order of a command with the values given to it, unless a required one is missing. -/
def order? (verb : Verb) (given : Given) : Option Order :=
  match verb with
  -- A token that is left out is an empty one, which a creation counts as missing.
  | .create => given.who?.map fun who =>
    .create who (given.bearer.getD "") (given.apiToken.getD "") given.seconds
  | .checkBearer => given.who?.bind fun who => given.token.map fun token => .checkBearer who token
  | .resolve => given.token.map .resolve
  | .revoke => given.who?.map .revoke
  | .revokeOrg => given.org.map .revokeOrg

end Verb

end TenantSessions.CommandLine
