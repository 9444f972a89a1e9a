import TenantSessions.Failure

/-! Records are the fields that the cache keeps for a session and for the binding of an API token.
-/

namespace TenantSessions

namespace Record

/-- The field of the org. -/
def org : String := "org"

/-- The field of the user. -/
def user : String := "user"

/-- The field of a session's bearer token. -/
def bearer : String := "jwt"

/-- The field of a session's API token. -/
def apiToken : String := "apiToken"

/-- How messages name the record of a binding. -/
def bindingName : String := "api token index"

end Record

/-- The fields by which a record names an identity. -/
def Identity.fields (who : Identity) : List (String × String) :=
  [(Record.org, Decimal.write who.org), (Record.user, Decimal.write who.user)]

/-- Reads one number of a binding. -/
def Id.ofFields (fields : Fields) (field : String) : Except Failure Id :=
  match fields[field]? with
  | none => .error (.malformed Record.bindingName field)
  | some text =>
    match Decimal.readInteger text.toList with
    | .ok id => .ok id
    | .error _ => .error (.malformed Record.bindingName field)

/-- Reads the identity that a binding names, the org before the user. -/
def Identity.ofFields (fields : Fields) : Except Failure Identity := do
  -- Of two fields that are malformed the org is reported.
  let org ← Id.ofFields fields Record.org
  let user ← Id.ofFields fields Record.user
  return { org := org, user := user }

/-- What a session grants: the tokens with which its identity may come back. -/
structure Grant where
  who : Identity
  bearer : Option String
  apiToken : Option String
deriving DecidableEq, Repr

/-- A token, unless it is empty. -/
def Grant.token? (token : String) : Option String :=
  if token = "" then none else some token

/-- The grant of two tokens, of which an empty one counts as missing. -/
def Grant.ofTokens (who : Identity) (bearer apiToken : String) : Grant where
  who := who
  bearer := token? bearer
  apiToken := token? apiToken

/-- The fields of a session, without the tokens that are missing. -/
def Grant.fields (grant : Grant) : List (String × String) :=
  grant.who.fields ++ grant.bearer.toList.map (Record.bearer, ·) ++
    grant.apiToken.toList.map (Record.apiToken, ·)

end TenantSessions
