import TenantSessions.Dialogue
import TenantSessions.Key
import TenantSessions.Record

/-!
The operations on sessions. A session lies under the key of its identity; an API token is bound to
an identity under a key of its own, which says where to look but never decides by itself.
-/

namespace TenantSessions.Session

/-- Refuses an identity or credentials that are missing, the org before the user before the tokens.
-/
def require (who : Identity) (bearer apiToken : String) : Except Failure Unit :=
  if who.org = 0 then .error .missingOrg
  else if who.user = 0 then .error .missingUser
  else if bearer = "" ∧ apiToken = "" then .error .missingCredential
  else .ok ()

/-- Refuses a lifetime that no expiry command can carry. -/
def requireExpiry (life : Lifetime) (stage : Stage) : Except Failure Unit :=
  match life.expiry with
  | .ok _ => .ok ()
  | .error fault => .error (.cache stage fault)

/-- Binds an API token to an identity for a lifetime. -/
def bind (who : Identity) (apiToken : String) (life : Lifetime) : Dialogue Unit := do
  Dialogue.put (.write (Key.apiToken apiToken) who.fields) (.writingBinding who)
  Dialogue.put (.expire (Key.apiToken apiToken) life) (.limitingBinding who)

/-- Writes the session of an identity, over what is left of an earlier one, for a lifetime. -/
def keep (grant : Grant) (life : Lifetime) : Dialogue Unit := do
  Dialogue.put (.write (Key.session grant.who) grant.fields) (.writingSession grant.who)
  Dialogue.put (.expire (Key.session grant.who) life) (.limitingSession grant.who)

/-- Opens or overwrites a session; everything that can be refused is refused before the first write.
-/
def create (who : Identity) (bearer apiToken : String) (bindingLife life : Lifetime) :
    Dialogue Unit := do
  Dialogue.ofExcept (require who bearer apiToken)
  -- A binding that will not be made cannot be too long.
  if apiToken ≠ "" then
    Dialogue.ofExcept (requireExpiry bindingLife (.limitingBinding who))
  Dialogue.ofExcept (requireExpiry life (.limitingSession who))
  -- The session comes last: a token that is bound without one is still turned down.
  if apiToken ≠ "" then
    bind who apiToken bindingLife
  keep (.ofTokens who bearer apiToken) life

/-- Whether a stored token is the presented one; an empty token never is. -/
def agrees (stored : Option String) (presented : String) : Bool :=
  match stored with
  | some stored => stored != "" && stored == presented
  | none => false

/-- Accepts a presented token if the session exists and holds it in the given field. -/
def confirm (who : Identity) (field presented : String) : Dialogue Unit := do
  let present ← Dialogue.put (.present (Key.session who)) (.checkingSession who)
  if present then
    let stored ← Dialogue.put (.read (Key.session who) field) (.readingSession who)
    if agrees stored presented then pure () else .fail .invalidSession
  else
    .fail .invalidSession

/-- Accepts a bearer token that the live session of an identity holds. -/
def checkBearer (who : Identity) (bearer : String) : Dialogue Unit := do
  Dialogue.ofExcept (require who bearer "")
  confirm who Record.bearer bearer

/-- Finds the identity to which an API token is bound and whose live session holds it. -/
def resolve (apiToken : String) : Dialogue Identity := do
  if apiToken = "" then
    .fail .missingCredential
  else
    let fields ← Dialogue.put (.readAll (Key.apiToken apiToken)) .readingBinding
    if fields.isEmpty then
      .fail .invalidSession
    else
      -- The binding outlives the session, so the session has the last word.
      let who ← Dialogue.ofExcept (Identity.ofFields fields)
      confirm who Record.apiToken apiToken
      return who

/-- Deletes the session of an identity, if there is one; bindings are left to expire. -/
def revoke (who : Identity) : Dialogue Unit := do
  let _ ← Dialogue.put (.delete [Key.session who]) (.deletingSession who)

/-- Deletes all sessions of an org and counts them. -/
def revokeOrg (org : Id) : Dialogue Nat := do
  let keys ← Dialogue.put (.list (Key.orgPattern org)) (.listingSessions org)
  -- Where nothing is listed the second command is saved, so it cannot fail either.
  if keys.isEmpty then return 0
  else Dialogue.put (.delete keys) (.deletingSessions org)

end TenantSessions.Session
