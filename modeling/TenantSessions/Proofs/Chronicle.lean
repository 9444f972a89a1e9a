import TenantSessions.Proofs.Desk
import TenantSessions.Proofs.Session.Check
import TenantSessions.Proofs.Session.Revocation

/-!
What can happen to a registrar over a cache in memory whose commands may be made to fail, one
incident after the other, and the chronicle of what has happened since both were new.
-/

namespace TenantSessions

/-- What happens to a registrar, or to its cache behind its back. -/
inductive Incident where
  | event (event : Event)
  | fail (kind : Command.Kind)
  | heal

/-- Whether an incident tries to open a session for an identity. -/
def Incident.Creates (who : Identity) : Incident → Prop
  | .event (.serve (.create creator _ _ _)) => creator = who
  | _ => False

/-- An incident that tries to open a session is a creation for its identity. -/
theorem Incident.eq_create {who : Identity} {incident : Incident}
    (creates : incident.Creates who) : ∃ bearer apiToken life,
      incident = .event (.serve (.create who bearer apiToken life)) := by
  unfold Incident.Creates at creates
  split at creates
  · rename_i creator bearer apiToken life
    subst creates
    exact ⟨bearer, apiToken, life, rfl⟩
  · exact absurd creates not_false

namespace Registrar

/-- What a registrar's cache shows. -/
def shelf (registrar : Registrar Memory) : Punctual :=
  registrar.cache.punctual

/-- A registrar serves over a cache in memory as it would over the punctual cache. -/
theorem hold_serve (registrar : Registrar Memory) (request : Request) :
    (request.dialogue registrar.bindingLife).hold registrar.shelf =
      ((registrar.serve request).1, (registrar.serve request).2.shelf) :=
  Memory.hold_punctual (request.dialogue registrar.bindingLife) registrar.cache

/-- What a registrar answers to a creation and what it leaves is one of the ways in which a creation
ends. -/
theorem creation (registrar : Registrar Memory) (who : Identity) (bearer apiToken : String)
    (life : Lifetime) :
    Creation registrar.shelf who bearer apiToken registrar.bindingLife life
      (registrar.serve (.create who bearer apiToken life)).1
      (registrar.serve (.create who bearer apiToken life)).2.shelf := by
  -- The creation is held with the punctual cache, whose answer and rest are the registrar's.
  have ended := registrar.shelf.creation who bearer apiToken registrar.bindingLife life
  have held := registrar.hold_serve (.create who bearer apiToken life)
  rw [Request.dialogue] at held
  rw [held] at ended
  exact ended

/-- What a registrar answers to a bearer token is the verdict on it, and nothing changes. -/
theorem serve_checkBearer (registrar : Registrar Memory) (who : Identity) (bearer : String) :
    (registrar.serve (.checkBearer who bearer)).1 = registrar.shelf.bearerVerdict who bearer ∧
      (registrar.serve (.checkBearer who bearer)).2.shelf = registrar.shelf := by
  -- Checks leave the punctual cache as it is.
  have held := registrar.hold_serve (.checkBearer who bearer)
  rw [Request.dialogue, Punctual.hold_checkBearer] at held
  obtain ⟨answer, left⟩ := Prod.mk.inj held
  exact ⟨answer.symm, left.symm⟩

/-- What a registrar answers to an API token is its resolution, and nothing changes. -/
theorem serve_resolve (registrar : Registrar Memory) (apiToken : String) :
    (registrar.serve (.resolve apiToken)).1 = registrar.shelf.resolution apiToken ∧
      (registrar.serve (.resolve apiToken)).2.shelf = registrar.shelf := by
  have held := registrar.hold_serve (.resolve apiToken)
  rw [Request.dialogue, Punctual.hold_resolve] at held
  obtain ⟨answer, left⟩ := Prod.mk.inj held
  exact ⟨answer.symm, left.symm⟩

/-- A bearer token gets in only an identity that has a session. -/
theorem session?_of_checkBearer {registrar : Registrar Memory} {who : Identity} {bearer : String}
    (accepted : (registrar.serve (.checkBearer who bearer)).1 = .ok ()) :
    ∃ entry, registrar.shelf.session? who = some entry := by
  -- A good verdict says, among other things, that a session confirms the token.
  rw [(registrar.serve_checkBearer who bearer).1, Punctual.bearerVerdict_eq_ok_iff] at accepted
  obtain ⟨-, -, -, -, confirmed⟩ := accepted
  obtain ⟨entry, found, -⟩ := (Punctual.confirms_iff ..).mp confirmed
  exact ⟨entry, found⟩

/-- An API token gets in only an identity that has a session. -/
theorem session?_of_resolve {registrar : Registrar Memory} {who : Identity} {apiToken : String}
    (accepted : (registrar.serve (.resolve apiToken)).1 = .ok who) :
    ∃ entry, registrar.shelf.session? who = some entry := by
  -- Whoever is answered has been confirmed by a session.
  rw [(registrar.serve_resolve apiToken).1, Punctual.resolution_eq_ok_iff] at accepted
  obtain ⟨-, -, -, -, confirmed⟩ := accepted
  obtain ⟨entry, found, -⟩ := (Punctual.confirms_iff ..).mp confirmed
  exact ⟨entry, found⟩

/-- A revocation that is answered well has deleted the session; otherwise nothing has changed. -/
theorem serve_revoke (registrar : Registrar Memory) (who : Identity) :
    ((registrar.serve (.revoke who)).1 = .ok () ∧
      (registrar.serve (.revoke who)).2.shelf = registrar.shelf.delete [Key.session who]) ∨
    (∃ failure, (registrar.serve (.revoke who)).1 = .error failure ∧
      (registrar.serve (.revoke who)).2.shelf = registrar.shelf) := by
  have held := registrar.hold_serve (.revoke who)
  rw [Request.dialogue, Punctual.hold_revoke] at held
  -- The deletion is the only command, so it decides alone.
  by_cases outage : Command.Kind.delete ∈ registrar.shelf.failing
  · rw [if_pos outage] at held
    obtain ⟨answer, left⟩ := Prod.mk.inj held
    exact .inr ⟨_, answer.symm, left.symm⟩
  · rw [if_neg outage] at held
    obtain ⟨answer, left⟩ := Prod.mk.inj held
    exact .inl ⟨answer.symm, left.symm⟩

/-- A revocation of an org that is answered well has deleted its sessions; otherwise nothing has
changed. -/
theorem serve_revokeOrg (registrar : Registrar Memory) (org : Id) :
    (∃ count, (registrar.serve (.revokeOrg org)).1 = .ok count ∧
      (registrar.serve (.revokeOrg org)).2.shelf =
        registrar.shelf.delete (registrar.shelf.orgKeys org)) ∨
    (∃ failure, (registrar.serve (.revokeOrg org)).1 = .error failure ∧
      (registrar.serve (.revokeOrg org)).2.shelf = registrar.shelf) := by
  have held := registrar.hold_serve (.revokeOrg org)
  rw [Request.dialogue, Punctual.hold_revokeOrg] at held
  by_cases unlisted : Command.Kind.list ∈ registrar.shelf.failing
  · rw [if_pos unlisted] at held
    obtain ⟨answer, left⟩ := Prod.mk.inj held
    exact .inr ⟨_, answer.symm, left.symm⟩
  rw [if_neg unlisted] at held
  -- Where nothing is selected, nothing changes, and that is what deleting nothing leaves.
  by_cases none : (registrar.shelf.orgKeys org).isEmpty
  · rw [if_pos none] at held
    obtain ⟨answer, left⟩ := Prod.mk.inj held
    rw [Punctual.delete_orgKeys_of_isEmpty none]
    exact .inl ⟨_, answer.symm, left.symm⟩
  rw [if_neg none] at held
  by_cases outage : Command.Kind.delete ∈ registrar.shelf.failing
  · rw [if_pos outage] at held
    obtain ⟨answer, left⟩ := Prod.mk.inj held
    exact .inr ⟨_, answer.symm, left.symm⟩
  · rw [if_neg outage] at held
    obtain ⟨answer, left⟩ := Prod.mk.inj held
    exact .inl ⟨_, answer.symm, left.symm⟩

/-- Where nothing fails, a revocation of an org is answered well. -/
theorem serve_revokeOrg_of_sound {registrar : Registrar Memory}
    (sound : registrar.cache.failing = []) (org : Id) :
    ∃ count, (registrar.serve (.revokeOrg org)).1 = .ok count := by
  have held := registrar.hold_serve (.revokeOrg org)
  have shown : registrar.shelf.failing = [] := sound
  rw [Request.dialogue, Punctual.hold_revokeOrg_of_sound shown] at held
  exact ⟨_, (Prod.mk.inj held).1.symm⟩

/-- A registrar all of whose commands succeed again. -/
def healed (registrar : Registrar Memory) : Registrar Memory :=
  { registrar with cache := registrar.cache.heal }

/-- What an incident makes of a registrar, unless the clock cannot go on. -/
def undergo? (registrar : Registrar Memory) : Incident → Option (Registrar Memory)
  | .event (.serve request) => some (registrar.serve request).2
  | .event (.reopen bindingLife) => some (registrar.reopen bindingLife)
  | .event (.pass span) => Desk.pass? registrar span
  | .fail kind => some { registrar with cache := registrar.cache.fail kind }
  | .heal => some registrar.healed

/-- What incidents in a row make of a registrar, unless the clock cannot go on. -/
def undergoAll? (registrar : Registrar Memory) : List Incident → Option (Registrar Memory)
  | [] => some registrar
  | incident :: script => (registrar.undergo? incident).bind (undergoAll? · script)

/-- Time passes as long as the clock can name the instant. -/
theorem undergo?_pass {registrar : Registrar Memory} (span : Lifetime)
    (named : registrar.cache.now + span.nanos ≤ Instant.horizon) :
    registrar.undergo? (.event (.pass span)) =
      some { registrar with
        cache := { registrar.cache with now := registrar.cache.now + span.nanos } } := by
  -- The clock of the cache is the only thing that moves.
  have advanced : registrar.cache.advance? span =
      some { registrar.cache with now := registrar.cache.now + span.nanos } := if_pos named
  rw [undergo?]
  show (registrar.cache.advance? span).map _ = _
  rw [advanced]
  rfl

/-- Where time has passed, the clock can name the instant. -/
theorem named_of_pass {before after : Registrar Memory} {span : Lifetime}
    (passed : before.undergo? (.event (.pass span)) = some after) :
    before.cache.now + span.nanos ≤ Instant.horizon := by
  have moved : before.undergo? (.event (.pass span)) =
      (before.cache.advance? span).map fun cache => { before with cache := cache } := rfl
  rw [moved, Option.map_eq_some_iff] at passed
  obtain ⟨cache, advanced, -⟩ := passed
  rw [Memory.advance?, Option.ite_none_right_eq_some] at advanced
  exact advanced.1

/-- A registrar whose cache passes time shows the punctual cache at the later instant. -/
theorem shelf_of_pass {before after : Registrar Memory} {span : Lifetime}
    (passed : Desk.pass? before span = some after) :
    after.shelf = before.shelf.reach (before.shelf.now + span.nanos) := by
  have moved : Desk.pass? before span =
      (before.cache.advance? span).map fun cache => { before with cache := cache } := rfl
  rw [moved, Option.map_eq_some_iff] at passed
  obtain ⟨cache, advanced, rfl⟩ := passed
  -- The clock has gone on, so the punctual cache has reached the later instant.
  have shown := before.cache.advance?_punctual span
  rw [advanced, Option.map_some, Punctual.advance?] at shown
  simp only [Option.ite_none_right_eq_some, Option.some.injEq] at shown
  exact shown.2.symm

end Registrar

/-- An incident, and the registrar to which it happened. -/
structure Moment where
  before : Registrar Memory
  incident : Incident

/-- The moments that have led from a new registrar over a new cache to what it is now, the last one
first. -/
inductive Chronicle (bindingLife : Option Lifetime) : List Moment → Registrar Memory → Prop where
  | start : Chronicle bindingLife [] (.new .empty bindingLife)
  | step {past : List Moment} {before after : Registrar Memory} {incident : Incident}
      (sofar : Chronicle bindingLife past before)
      (undergone : before.undergo? incident = some after) :
      Chronicle bindingLife (⟨before, incident⟩ :: past) after

/-- A chronicle goes on with whatever happens next. -/
theorem Chronicle.undergoAll? {bindingLife : Option Lifetime} {past : List Moment}
    {registrar later : Registrar Memory} {script : List Incident}
    (chronicle : Chronicle bindingLife past registrar)
    (undergone : registrar.undergoAll? script = some later) :
    ∃ longer, Chronicle bindingLife longer later := by
  -- The induction is on the script, each of whose incidents is one more moment.
  induction script generalizing past registrar with
  | nil =>
    cases undergone
    exact ⟨past, chronicle⟩
  | cons incident script ih =>
    obtain ⟨next, first, rest⟩ := Option.bind_eq_some_iff.mp undergone
    exact ih (.step chronicle first) rest

namespace Moment

/-- When the session is over that a moment asks for, if it asks for one of the identity. -/
def bound? (who : Identity) (moment : Moment) : Option Instant :=
  match moment.incident with
  | .event (.serve (.create creator _ _ life)) =>
    if creator = who then some (life.overAt moment.before.cache.now) else none
  | _ => none

/-- Whether a moment settles how long the session of an identity lasts: a creation does that is
answered well, and so does a revocation. -/
def Settles (who : Identity) (moment : Moment) : Prop :=
  (∃ bearer apiToken life,
    moment.incident = .event (.serve (.create who bearer apiToken life)) ∧
      (moment.before.serve (.create who bearer apiToken life)).1 = .ok ()) ∨
  (moment.incident = .event (.serve (.revoke who)) ∧
    (moment.before.serve (.revoke who)).1 = .ok ()) ∨
  ∃ count, moment.incident = .event (.serve (.revokeOrg who.org)) ∧
    (moment.before.serve (.revokeOrg who.org)).1 = .ok count

/-- Whether a moment writes a session of an identity and fails to limit it. A lifetime that is too
long is refused before anything is written, and does not count. -/
def StopsAtLimit (who : Identity) (moment : Moment) : Prop :=
  ∃ bearer apiToken life fault,
    moment.incident = .event (.serve (.create who bearer apiToken life)) ∧
      (moment.before.serve (.create who bearer apiToken life)).1 =
        .error (.cache (.limitingSession who) fault) ∧
      fault ≠ .lifetimeTooLong life

/-- Only a creation asks for a bound. -/
theorem creates_of_bound? {who : Identity} {moment : Moment} {bound : Instant}
    (asked : moment.bound? who = some bound) : moment.incident.Creates who := by
  unfold bound? at asked
  -- Any other incident asks for nothing.
  split at asked
  · rename_i created
    rw [Option.ite_none_right_eq_some] at asked
    rw [created]
    exact asked.1
  · cases asked

/-- Only a creation stops at a limit. -/
theorem creates_of_stopsAtLimit {who : Identity} {moment : Moment}
    (stopped : moment.StopsAtLimit who) : moment.incident.Creates who := by
  -- The incident is a creation for the identity by definition.
  obtain ⟨_, _, _, _, created, -⟩ := stopped
  rw [created]
  rfl

/-- A creation that stops at a limit settles nothing. -/
theorem not_stopsAtLimit_of_settles {who : Identity} {moment : Moment}
    (settled : moment.Settles who) : ¬ moment.StopsAtLimit who := by
  intro stopped
  obtain ⟨bearer, apiToken, life, fault, created, failed, -⟩ := stopped
  rcases settled with ⟨_, _, _, again, done⟩ | ⟨revoked, -⟩ | ⟨_, revoked, -⟩
  · -- One creation is not answered in two ways.
    rw [created] at again
    cases again
    rw [failed] at done
    cases done
  · rw [created] at revoked
    cases revoked
  · rw [created] at revoked
    cases revoked

end Moment

end TenantSessions
