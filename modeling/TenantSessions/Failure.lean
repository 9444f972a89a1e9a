import TenantSessions.Identity
import TenantSessions.Cache.Fault

/-! Failures are what session operations report instead of an answer. -/

namespace TenantSessions

/-- What an operation was doing when the cache failed it. -/
inductive Stage where
  | writingBinding (who : Identity)
  | limitingBinding (who : Identity)
  | writingSession (who : Identity)
  | limitingSession (who : Identity)
  | checkingSession (who : Identity)
  | readingSession (who : Identity)
  | readingBinding
  | deletingSession (who : Identity)
  | listingSessions (org : Id)
  | deletingSessions (org : Id)
  /-- A doing in the words of the caller. -/
  | described (action : String)
deriving DecidableEq, Repr

/-- How messages describe a stage. -/
def Stage.action : Stage → String
  | .writingBinding who => "writing api token index for " ++ who.phrase
  | .limitingBinding who => "setting api token index ttl for " ++ who.phrase
  | .writingSession who => "writing session for " ++ who.phrase
  | .limitingSession who => "setting session ttl for " ++ who.phrase
  | .checkingSession who => "checking session for " ++ who.phrase
  | .readingSession who => "reading session for " ++ who.phrase
  | .readingBinding => "reading api token index"
  | .deletingSession who => "deleting session for " ++ who.phrase
  | .listingSessions org => "listing sessions for " ++ org.orgPhrase
  | .deletingSessions org => "deleting sessions for " ++ org.orgPhrase
  | .described action => action

/-- Why an operation has no answer. -/
inductive Failure where
  | missingOrg
  | missingUser
  | missingCredential
  /-- There is no such session, it has expired, or it holds another token; which of these is not
  told. -/
  | invalidSession
  /-- The cache did not perform a command. -/
  | cache (stage : Stage) (fault : Fault)
  /-- A field of a record in the cache is missing or names no number. -/
  | malformed (record field : String)
deriving DecidableEq, Repr

namespace Failure

/-- How messages describe a failure. -/
def message : Failure → String
  | .missingOrg => "org id is required"
  | .missingUser => "user id is required"
  | .missingCredential => "a bearer token or an api token is required"
  | .invalidSession => "invalid session"
  | .cache stage fault => "cache error while " ++ stage.action ++ ": " ++ fault.message
  | .malformed record field =>
    "malformed " ++ record ++ " record: field `" ++ field ++ "` is missing or not an integer"

/-- Whether a presented credential was turned down. -/
def isVerdict : Failure → Bool
  | .invalidSession => true
  | _ => false

/-- Whether the caller named no org or no user. -/
def isMissingIdentity : Failure → Bool
  | .missingOrg => true
  | .missingUser => true
  | _ => false

/-- Whether the cache failed or held data that cannot be trusted. -/
def isInfrastructure : Failure → Bool
  | .cache .. => true
  | .malformed .. => true
  | _ => false

end Failure

end TenantSessions
