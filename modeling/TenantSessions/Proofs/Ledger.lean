import TenantSessions.Proofs.Desk
import TenantSessions.Proofs.Session.Creation

/-!
A ledger is what a registrar means: a table of sessions by identity and a table of bindings by API
token, each row with a deadline from which on it does not count. No row is known by a name in text,
and none is dropped because someone looks at it.
-/

namespace TenantSessions

namespace Identity

/-- Identities are ordered by org and then by user. -/
instance : Ord Identity where
  compare := compareLex (compareOn Identity.org) (compareOn Identity.user)

instance : Std.TransOrd Identity :=
  inferInstanceAs (Std.TransCmp (compareLex (compareOn Identity.org) (compareOn Identity.user)))

instance : Std.LawfulEqOrd Identity where
  compare_self := Std.ReflCmp.compare_self
  eq_of_compare := by
    intro first second same
    -- Neither comparison is decided, so both parts are equal.
    obtain ⟨org, user⟩ := Ordering.then_eq_eq.mp same
    have org : first.org = second.org := Std.LawfulEqOrd.eq_of_compare org
    have user : first.user = second.user := Std.LawfulEqOrd.eq_of_compare user
    cases first
    cases second
    cases org
    cases user
    rfl

end Identity

/-- A row of a table, with the instant from which on it does not count. -/
structure Dated (α : Type) where
  value : α
  deadline : Option Instant

/-- A row counts as long as its deadline has not come. -/
def Dated.counts {α : Type} (row : Dated α) (now : Instant) : Bool :=
  !row.deadline.any (· ≤ now)

/-- The tokens of a session. -/
structure Tokens where
  bearer : Option String
  apiToken : Option String

/-- The tokens of a session that is opened, or renewed where there is one: tokens that are presented
take the place of old ones, and an empty one is not presented. -/
def Tokens.renewed (old? : Option Tokens) (bearer apiToken : String) : Tokens where
  bearer := (Grant.token? bearer).or (old?.bind Tokens.bearer)
  apiToken := (Grant.token? apiToken).or (old?.bind Tokens.apiToken)

/-- The two tables, the lifetime that bindings get, the clock, and the last instant that can be a
deadline, if there is one. -/
structure Ledger where
  sessions : Std.ExtTreeMap Identity (Dated Tokens)
  bindings : Std.ExtTreeMap String (Dated Identity)
  bindingLife : Lifetime
  now : Instant
  horizon : Option Instant

namespace Ledger

/-- A ledger without rows; bindings live for a day unless a lifetime is given. -/
def new (horizon : Option Instant) (bindingLife : Option Lifetime) : Ledger where
  sessions := ∅
  bindings := ∅
  bindingLife := bindingLife.getD Lifetime.day
  now := Instant.setUp
  horizon := horizon

/-- The session of an identity that counts, if there is one. -/
def session? (ledger : Ledger) (who : Identity) : Option (Dated Tokens) :=
  ledger.sessions[who]?.filter (·.counts ledger.now)

/-- The binding of an API token that counts, if there is one. -/
def binding? (ledger : Ledger) (apiToken : String) : Option (Dated Identity) :=
  ledger.bindings[apiToken]?.filter (·.counts ledger.now)

/-- The deadline of a lifetime that begins now, unless it lies behind the last deadline. -/
def deadline? (ledger : Ledger) (life : Lifetime) : Option Instant :=
  if ledger.horizon.all (life.overAt ledger.now ≤ ·) then some (life.overAt ledger.now) else none

/-- Binds an API token to an identity. Where there is no deadline to set, the binding keeps the one
that it has. -/
def bind (ledger : Ledger) (who : Identity) (apiToken : String) : Except Failure Unit × Ledger :=
  let set (deadline : Option Instant) : Ledger :=
    { ledger with bindings := ledger.bindings.insert apiToken ⟨who, deadline⟩ }
  match ledger.deadline? ledger.bindingLife with
  | some deadline => (.ok (), set (some deadline))
  | none =>
    (.error (.cache (.limitingBinding who) (.deadlineTooLate ledger.bindingLife)),
      set ((ledger.binding? apiToken).bind Dated.deadline))

/-- Opens a session, or renews the one that counts. Where there is no deadline to set, the session
keeps the one that it has. -/
def keep (ledger : Ledger) (who : Identity) (bearer apiToken : String) (life : Lifetime) :
    Except Failure Unit × Ledger :=
  -- A row that no longer counts is not renewed: its tokens are forgotten.
  let tokens := Tokens.renewed ((ledger.session? who).map Dated.value) bearer apiToken
  let set (deadline : Option Instant) : Ledger :=
    { ledger with sessions := ledger.sessions.insert who ⟨tokens, deadline⟩ }
  match ledger.deadline? life with
  | some deadline => (.ok (), set (some deadline))
  | none =>
    (.error (.cache (.limitingSession who) (.deadlineTooLate life)),
      set ((ledger.session? who).bind Dated.deadline))

/-- Binds the API token if there is one, and opens or renews the session, unless the request is
refused. -/
def create (ledger : Ledger) (who : Identity) (bearer apiToken : String) (life : Lifetime) :
    Except Failure Unit × Ledger :=
  -- What is refused has not been written, so no row changes.
  match Session.refusal? who bearer apiToken ledger.bindingLife life with
  | some failure => (.error failure, ledger)
  | none =>
    match if apiToken = "" then (.ok (), ledger) else ledger.bind who apiToken with
    | (.error failure, ledger) => (.error failure, ledger)
    | (.ok (), ledger) => ledger.keep who bearer apiToken life

/-- Binding a token leaves the lifetime of bindings as it is. -/
theorem bind_bindingLife (ledger : Ledger) (who : Identity) (apiToken : String) :
    (ledger.bind who apiToken).2.bindingLife = ledger.bindingLife := by
  unfold bind
  cases ledger.deadline? ledger.bindingLife with
  | none => rfl
  | some deadline => rfl

/-- Opening a session leaves the lifetime of bindings as it is. -/
theorem keep_bindingLife (ledger : Ledger) (who : Identity) (bearer apiToken : String)
    (life : Lifetime) :
    (ledger.keep who bearer apiToken life).2.bindingLife = ledger.bindingLife := by
  unfold keep
  cases ledger.deadline? life with
  | none => rfl
  | some deadline => rfl

/-- A creation leaves the lifetime of bindings as it is. -/
theorem create_bindingLife (ledger : Ledger) (who : Identity) (bearer apiToken : String)
    (life : Lifetime) :
    (ledger.create who bearer apiToken life).2.bindingLife = ledger.bindingLife := by
  -- Whether a token is bound or not, only the table of bindings changes.
  have bound : (if apiToken = "" then (.ok (), ledger) else ledger.bind who apiToken :
      Except Failure Unit × Ledger).2.bindingLife = ledger.bindingLife := by
    split
    · rfl
    · exact ledger.bind_bindingLife who apiToken
  -- The creation is refused, or stops at the binding, or goes on to the session.
  unfold create
  split
  · rfl
  · split
    · rename_i stopped
      rw [stopped] at bound
      exact bound
    · rename_i bound' goes
      rw [goes] at bound
      exact (keep_bindingLife _ who bearer apiToken life).trans bound

/-- Accepts a bearer token that the session of an identity has. -/
def checkBearer (ledger : Ledger) (who : Identity) (bearer : String) : Except Failure Unit := do
  Session.require who bearer ""
  if (ledger.session? who).any (·.value.bearer = some bearer) then .ok ()
  else .error .invalidSession

/-- Finds the identity to which an API token is bound and whose session has it. -/
def resolve (ledger : Ledger) (apiToken : String) : Except Failure Identity :=
  if apiToken = "" then .error .missingCredential
  else
    match ledger.binding? apiToken with
    | none => .error .invalidSession
    | some binding =>
      if (ledger.session? binding.value).any (·.value.apiToken = some apiToken) then
        .ok binding.value
      else .error .invalidSession

/-- Strikes the session of an identity. -/
def revoke (ledger : Ledger) (who : Identity) : Ledger :=
  { ledger with sessions := ledger.sessions.erase who }

/-- Strikes the sessions of an org and counts those that counted. -/
def revokeOrg (ledger : Ledger) (org : Id) : Nat × Ledger :=
  ((ledger.sessions.filter fun who row => who.org = org && row.counts ledger.now).size,
    { ledger with sessions := ledger.sessions.filter fun who _ => who.org ≠ org })

/-- A ledger is a desk that answers by its tables; its clock ends where that of a cache does. -/
instance : Desk Ledger where
  serve
    | ledger, .create who bearer apiToken life => ledger.create who bearer apiToken life
    | ledger, .checkBearer who bearer => (ledger.checkBearer who bearer, ledger)
    | ledger, .resolve apiToken => (ledger.resolve apiToken, ledger)
    | ledger, .revoke who => (.ok (), ledger.revoke who)
    | ledger, .revokeOrg org => (.ok (ledger.revokeOrg org).1, (ledger.revokeOrg org).2)
  reopen ledger bindingLife := { ledger with bindingLife := bindingLife.getD Lifetime.day }
  pass? ledger span :=
    -- The clock ends even where deadlines have no bound.
    let now := ledger.now + span.nanos
    if now ≤ Instant.horizon then some { ledger with now := now } else none

/-- Time passes without a change to the lifetime of bindings. -/
theorem pass?_bindingLife {ledger later : Ledger} {span : Lifetime}
    (passed : Desk.pass? ledger span = some later) : later.bindingLife = ledger.bindingLife := by
  simp only [Desk.pass?, Option.ite_none_right_eq_some, Option.some.injEq] at passed
  exact passed.2 ▸ rfl

end Ledger

end TenantSessions
