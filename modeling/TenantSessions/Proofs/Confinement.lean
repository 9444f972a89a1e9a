import TenantSessions.Proofs.Provenance
import TenantSessions.Proofs.Residue

/-!
What a creation cannot reach. However far it comes, it touches no key but the session of its
identity and the binding of its API token; so nobody else's tokens are answered in another way,
unless the creation takes over their API token, and nothing gets in anew but what it was asked for.
-/

namespace TenantSessions.Registrar

/-- A registrar just these kinds of whose commands are made to fail. -/
def impaired (registrar : Registrar Memory) (kinds : List Command.Kind) : Registrar Memory :=
  { registrar with cache := { registrar.cache with failing := kinds } }

/-- How far the effects of a creation reach that is made for an identity with two tokens. -/
structure Confined (before after : Registrar Memory) (who : Identity)
    (bearer apiToken : String) : Prop where
  /-- Every other key that is live keeps its fields and its deadline, and no other becomes live. -/
  keys : ∀ key, key ≠ Key.session who → (apiToken ≠ "" → key ≠ Key.apiToken apiToken) →
    after.cache.live[key]? = before.cache.live[key]?
  /-- The bearer tokens of every other identity are answered as before, whatever fails. -/
  others : ∀ kinds other presented, other ≠ who →
    ((after.impaired kinds).serve (.checkBearer other presented)).1 =
      ((before.impaired kinds).serve (.checkBearer other presented)).1
  /-- Every other API token is answered as before, unless it is bound to the identity. -/
  unowned : ∀ kinds presented, presented ≠ apiToken →
    before.shelf.owner? presented ≠ some who →
    ((after.impaired kinds).serve (.resolve presented)).1 =
      ((before.impaired kinds).serve (.resolve presented)).1
  /-- Every other API token that is bound to the identity is answered as before or turned down; only
  where a command of the check itself fails is that reported instead. -/
  owned : ∀ kinds presented, presented ≠ apiToken → before.shelf.owner? presented = some who →
    ((after.impaired kinds).serve (.resolve presented)).1 =
        ((before.impaired kinds).serve (.resolve presented)).1 ∨
      ((after.impaired kinds).serve (.resolve presented)).1 = .error .invalidSession ∨
      ∃ stage, ∃ kind ∈ kinds,
        ((after.impaired kinds).serve (.resolve presented)).1 =
          .error (.cache stage (.injected kind))
  /-- A bearer token that gets in only afterwards is the one of the creation, for its identity. -/
  bearer : ∀ other presented,
    (after.healed.serve (.checkBearer other presented)).1 = .ok () →
    (before.healed.serve (.checkBearer other presented)).1 ≠ .ok () →
    other = who ∧ presented = bearer
  /-- An API token that gets an identity in only afterwards is the one of the creation, likewise. -/
  apiToken : ∀ presented other,
    (after.healed.serve (.resolve presented)).1 = .ok other →
    (before.healed.serve (.resolve presented)).1 ≠ .ok other →
    other = who ∧ presented = apiToken

variable {before : Registrar Memory} {who other : Identity} {bearer apiToken presented : String}
  {life : Lifetime}

/-- What a session stores after a creation was stored before, or is what the creation writes to the
session of its identity. -/
theorem token?_create {field : String}
    (stored : (before.serve (.create who bearer apiToken life)).2.shelf.token? other field =
      some presented) :
    (other = who ∧ (Grant.ofTokens other bearer apiToken).held field = some presented) ∨
      before.shelf.token? other field = some presented := by
  have handed := (handsDown_create before who bearer apiToken life).token other field presented
    stored
  rcases Option.or_eq_some_iff.mp handed with now | ⟨-, earlier⟩
  · -- The session has been written in this moment.
    obtain ⟨grant, kept, held⟩ := Option.bind_eq_some_iff.mp now
    obtain ⟨same, rfl⟩ := Moment.of_kept?_create kept
    exact .inl ⟨same.symm, held⟩
  · exact .inr earlier

/-- A bearer token that is admitted after a creation was admitted before, or is the one with which
the creation was made for this identity. -/
theorem admitsBearer_create
    (admitted : (before.serve (.create who bearer apiToken life)).2.shelf.AdmitsBearer other
      presented) :
    (other = who ∧ presented = bearer) ∨ before.shelf.AdmitsBearer other presented := by
  obtain ⟨org, user, stored, filled⟩ := admitted
  rcases token?_create stored with ⟨same, held⟩ | earlier
  · rw [Grant.held_bearer] at held
    exact .inl ⟨same, ((Grant.token?_eq_some_iff ..).mp held).2.symm⟩
  · exact .inr ⟨org, user, earlier, filled⟩

/-- An API token that a session stores after a creation was stored before, or is the one with which
the creation was made for this identity. -/
theorem apiToken?_create
    (stored : (before.serve (.create who bearer apiToken life)).2.shelf.token? other
      Record.apiToken = some presented) :
    (other = who ∧ presented = apiToken) ∨
      before.shelf.token? other Record.apiToken = some presented := by
  rcases token?_create stored with ⟨same, held⟩ | earlier
  · rw [Grant.held_apiToken] at held
    exact .inl ⟨same, ((Grant.token?_eq_some_iff ..).mp held).2.symm⟩
  · exact .inr earlier

/-- An API token that is admitted after a creation was admitted before, or is the one with which the
creation was made for this identity. -/
theorem admitsApiToken_create
    (admitted : (before.serve (.create who bearer apiToken life)).2.shelf.AdmitsApiToken other
      presented) :
    (other = who ∧ presented = apiToken) ∨ before.shelf.AdmitsApiToken other presented := by
  obtain ⟨owned, stored, filled⟩ := admitted
  rcases apiToken?_create stored with new | earlier
  · exact .inl new
  -- The session stored the token before, so it is the binding that could be new.
  rcases (handsDown_create before who bearer apiToken life).owner owned with
    ⟨bound, -, -⟩ | ⟨-, ownedBefore⟩
  · rw [Moment.owner?_create, Option.ite_none_right_eq_some, Option.some.injEq] at bound
    obtain ⟨⟨⟨-, same⟩, -⟩, rfl⟩ := bound
    exact .inl ⟨rfl, same.symm⟩
  · exact .inr ⟨ownedBefore, earlier, filled⟩

/-- However a creation ends, its effects are confined to its identity and its tokens. -/
theorem creation_confined (registrar : Registrar Memory) (who : Identity)
    (bearer apiToken : String) (life : Lifetime) :
    registrar.Confined (registrar.serve (.create who bearer apiToken life)).2 who bearer
      apiToken := by
  have ended := registrar.creation who bearer apiToken life
  constructor
  case keys => exact fun key unkept unbound => ended.frame unkept unbound
  case others =>
    intro kinds other presented different
    rw [(serve_checkBearer (impaired _ kinds) other presented).1,
      (serve_checkBearer (impaired _ kinds) other presented).1]
    refine Punctual.bearerVerdict_congr ?_ ?_ presented
    · rfl
    · exact ended.session?_other different.symm
  case unowned =>
    intro kinds presented different unowned
    rw [(serve_resolve (impaired _ kinds) presented).1,
      (serve_resolve (impaired _ kinds) presented).1]
    -- The binding is the same, and so is the session of whomever it names.
    refine Punctual.resolution_congr ?_ ?_ fun other owned => ?_
    · rfl
    · exact ended.binding?_other different.symm
    · exact ended.session?_other fun same => unowned (same ▸ owned)
  case owned =>
    intro kinds presented different owned
    rw [(serve_resolve (impaired _ kinds) presented).1,
      (serve_resolve (impaired _ kinds) presented).1]
    refine Punctual.resolution_dwindles ?_ owned ?_ fun stored => ?_
    · rfl
    · exact (congrArg (Option.bind · _) (ended.binding?_other different.symm)).trans owned
    · -- The session may store another token by now, but not this one anew.
      exact (apiToken?_create stored).resolve_left fun both => different both.2
  case bearer =>
    intro other presented accepted refused
    rw [checkBearer_healed_iff] at accepted
    rw [Ne, checkBearer_healed_iff] at refused
    exact (admitsBearer_create accepted).resolve_right refused
  case apiToken =>
    intro presented other accepted refused
    rw [resolve_healed_iff] at accepted
    rw [Ne, resolve_healed_iff] at refused
    exact (admitsApiToken_create accepted).resolve_right refused

/-- A registrar with the sessions of two identities. -/
def rivals : Registrar Memory :=
  (((new Memory.empty none).serve (.create ⟨7, 42⟩ "jwt" "api" (.ofSeconds 3600))).2.serve
    (.create ⟨7, 43⟩ "other" "key" (.ofSeconds 3600))).2

/-- The second identity takes over the API token of the first. The token gets the second one in now,
whose own token of before is turned down, and the bearer token of the first is good as before. -/
theorem creation_confined_rivals :
    (rivals.serve (.resolve "api")).1 = .ok ⟨7, 42⟩ ∧
      (rivals.serve (.resolve "key")).1 = .ok ⟨7, 43⟩ ∧
      ∃ after, (rivals.serve (.create ⟨7, 43⟩ "jwt" "api" (.ofSeconds 3600))).2 = after ∧
        rivals.Confined after ⟨7, 43⟩ "jwt" "api" ∧
        (after.serve (.resolve "api")).1 = .ok ⟨7, 43⟩ ∧
        (after.serve (.resolve "key")).1 = .error .invalidSession ∧
        ((after.impaired []).serve (.checkBearer ⟨7, 42⟩ "jwt")).1 = .ok () := by
  have confined := creation_confined rivals ⟨7, 43⟩ "jwt" "api" (.ofSeconds 3600)
  have before : ((rivals.impaired []).serve (.checkBearer ⟨7, 42⟩ "jwt")).1 = .ok () := rfl
  refine ⟨rfl, rfl, _, rfl, confined, rfl, rfl, ?_⟩
  exact (confined.others [] ⟨7, 42⟩ "jwt" (by decide)).trans before

end TenantSessions.Registrar
