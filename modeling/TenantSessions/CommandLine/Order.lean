import TenantSessions.Registrar
import TenantSessions.Settings
import TenantSessions.Log.Event

/-! Orders are what a command line asks of a registrar, and the events that tell how it went. -/

namespace TenantSessions.CommandLine

/-- An operation asked for on a command line. -/
inductive Order where
  | create (who : Identity) (bearer apiToken : String) (seconds : Option UInt64)
  | checkBearer (who : Identity) (bearer : String)
  | resolve (apiToken : String)
  | revoke (who : Identity)
  | revokeOrg (org : Id)
deriving DecidableEq, Repr

/-- The request of an order; a session whose seconds are not named lives as the settings say. -/
def Order.request (settings : Settings) : Order → Request
  | .create who bearer apiToken seconds =>
    .create who bearer apiToken ((seconds.map Lifetime.ofSeconds).getD settings.sessionLife)
  | .checkBearer who bearer => .checkBearer who bearer
  | .resolve apiToken => .resolve apiToken
  | .revoke who => .revoke who
  | .revokeOrg org => .revokeOrg org

/-- The name of the program, under which it also logs. -/
def programName : String := "sessionctl"

/-- An event of the program itself. -/
def event (level : LogLevel) (text : String) (values : List (String × String)) : LogEvent where
  level := level
  source := programName
  text := text
  values := values

/-- An identity as the values of an event. -/
def identityValues (who : Identity) : List (String × String) :=
  [("org", Decimal.write who.org), ("user", Decimal.write who.user)]

/-- The event of a request that was served. -/
def successEvent : (request : Request) → request.Answer → LogEvent
  | .create who _ _ life, _ =>
    event .info "session created" (identityValues who ++ [("ttl_secs", life.seconds.repr)])
  | .checkBearer who _, _ => event .info "bearer token is valid" (identityValues who)
  | .resolve _, who => event .info "api token is valid" (identityValues who)
  | .revoke who, _ => event .info "session revoked" (identityValues who)
  | .revokeOrg org, removed =>
    event .info "org sessions revoked" [("org", Decimal.write org), ("removed", removed.repr)]

/-- The event of something that went wrong. -/
def failureEvent (text : String) : LogEvent :=
  event .error text []

end TenantSessions.CommandLine
