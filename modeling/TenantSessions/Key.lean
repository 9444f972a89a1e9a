import TenantSessions.Identity

/-! Names under which sessions and token bindings are kept, and how they are shown in logs. -/

namespace TenantSessions.Key

/-- What the name of a token binding starts with. -/
def tokenMark : String := "apiToken:"

/-- What the names of all sessions of an org start with. -/
def orgMark (org : Id) : String :=
  "session:org:" ++ Decimal.write org ++ ":user:"

/-- The name of an identity's session. -/
def session (who : Identity) : String :=
  orgMark who.org ++ Decimal.write who.user

/-- The pattern that the names of an org's sessions match. -/
def orgPattern (org : Id) : String :=
  orgMark org ++ "*"

/-- The name of the binding of an API token. -/
def apiToken (token : String) : String :=
  tokenMark ++ token

/-- Hides the token in the name of a binding and leaves other names as they are. -/
def redact (name : String) : String :=
  -- A session's name holds no secret, and never starts with the mark.
  if tokenMark.toList.isPrefixOf name.toList then tokenMark ++ "<redacted>" else name

end TenantSessions.Key
