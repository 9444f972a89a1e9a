import TenantSessions.Decimal

/-! An identity is a user within an org; both are known by number. -/

namespace TenantSessions

/-- The number of an org or a user; zero stands for a missing one. -/
abbrev Id := Int64

/-- A user within an org. -/
structure Identity where
  org : Id
  user : Id
deriving DecidableEq, Repr

/-- How messages name an org. -/
def Id.orgPhrase (org : Id) : String :=
  "org " ++ Decimal.write org

/-- How messages name an identity. -/
def Identity.phrase (who : Identity) : String :=
  who.org.orgPhrase ++ " user " ++ Decimal.write who.user

end TenantSessions
