import TenantSessions.Proofs.Session.Check

/-!
What lets a token in: the session of an identity stores it in its field and, for an API token, the
binding of the token names the identity. Writing a session or a binding stores and names what is
written, and nothing else changes.
-/

namespace TenantSessions

namespace Punctual

/-- The token that the session of an identity stores in a field, if there is one. -/
def token? (shelf : Punctual) (who : Identity) (field : String) : Option String :=
  (shelf.session? who).bind fun entry => entry.fields[field]?

/-- A token is confirmed exactly if the session stores it and it is not empty. -/
theorem confirms_iff_token? (shelf : Punctual) (who : Identity) (field presented : String) :
    shelf.confirms who field presented = true ↔
      shelf.token? who field = some presented ∧ presented ≠ "" := by
  -- Where there is no session, nothing is stored and nothing confirmed.
  rw [confirms_iff, token?]
  cases shelf.session? who with
  | none => simp
  | some entry => simp

/-- Where an API token is bound to one identity before and after a change, and the session stores it
afterwards only if it did before, it is answered as before or turned down, or a command of the check
fails. -/
theorem resolution_dwindles {shelf left : Punctual} {who : Identity} {apiToken : String}
    (failing : left.failing = shelf.failing) (owned : shelf.owner? apiToken = some who)
    (ownedLeft : left.owner? apiToken = some who)
    (earlier : left.token? who Record.apiToken = some apiToken →
      shelf.token? who Record.apiToken = some apiToken) :
    left.resolution apiToken = shelf.resolution apiToken ∨
      left.resolution apiToken = .error .invalidSession ∨
      ∃ stage, ∃ kind ∈ shelf.failing,
        left.resolution apiToken = .error (.cache stage (.injected kind)) := by
  by_cases empty : apiToken = ""
  · -- An empty token is refused at any time.
    exact .inl (by rw [resolution, if_pos empty, resolution, if_pos empty])
  rw [resolution_of_owner empty owned, resolution_of_owner empty ownedLeft, failing]
  by_cases unread : Command.Kind.readAll ∈ shelf.failing
  · exact .inl (by rw [if_pos unread, if_pos unread])
  rw [if_neg unread, if_neg unread]
  have cases := left.verdict_cases who Record.apiToken apiToken
  rw [failing] at cases
  rcases cases with good | refused | ⟨stage, kind, outage, failed⟩
  · -- A good verdict is about a token that the session has stored all along.
    obtain ⟨present, read, confirmed⟩ := (verdict_eq_ok_iff ..).mp good
    obtain ⟨stored, filled⟩ := (confirms_iff_token? ..).mp confirmed
    rw [failing] at present read
    have goodBefore : shelf.verdict who Record.apiToken apiToken = .ok () :=
      (verdict_eq_ok_iff ..).mpr
        ⟨present, read, (confirms_iff_token? ..).mpr ⟨earlier stored, filled⟩⟩
    exact .inl (by rw [good, goodBefore])
  · exact .inr (.inl (by rw [refused]; rfl))
  · exact .inr (.inr ⟨stage, kind, outage, by rw [failed]; rfl⟩)

variable (shelf : Punctual) (who other : Identity) (bearer apiToken presented field : String)
  (life : Lifetime)

/-- Writing a session stores what its grant does, over what it stored before. -/
theorem token?_write_session (grant : Grant) :
    (shelf.write (Key.session who) grant.fields).token? other field =
      if who = other then (grant.held field).or (shelf.token? who field)
      else shelf.token? other field := by
  rw [token?, session?_write_session]
  by_cases same : who = other
  · rw [if_pos same, if_pos same, Option.bind_some, written, Fields.getElem?_write_held, token?]
    -- A session that is new starts without fields.
    cases shelf.session? who with
    | none => rw [Option.getD_none, Entry.blank, Std.ExtTreeMap.getElem?_empty, Option.bind_none]
    | some entry => rfl
  · rw [if_neg same, if_neg same, token?]

/-- Writing a session stores its bearer token, unless it has none. -/
theorem bearer?_write_session :
    (shelf.write (Key.session who) (Grant.ofTokens who bearer apiToken).fields).token? other
        Record.bearer =
      if who = other then (Grant.token? bearer).or (shelf.token? who Record.bearer)
      else shelf.token? other Record.bearer := by
  rw [token?_write_session, Grant.held_bearer, Grant.ofTokens]

/-- Writing a session stores its API token, unless it has none. -/
theorem apiToken?_write_session :
    (shelf.write (Key.session who) (Grant.ofTokens who bearer apiToken).fields).token? other
        Record.apiToken =
      if who = other then (Grant.token? apiToken).or (shelf.token? who Record.apiToken)
      else shelf.token? other Record.apiToken := by
  rw [token?_write_session, Grant.held_apiToken, Grant.ofTokens]

/-- Placing a session stores what writing it stores, unless the lifetime is over at once. -/
theorem token?_place_session (pairs : List (String × String)) :
    (shelf.place (Key.session who) pairs life).token? other field =
      if who = other ∧ life.millis = 0 then none
      else (shelf.write (Key.session who) pairs).token? other field := by
  -- Placing differs from writing in the deadline alone, which stores nothing.
  rw [token?, token?, session?_place_session, session?_write_session]
  by_cases same : who = other
  · by_cases zero : life.millis = 0
    · rw [if_pos same, if_pos ⟨same, zero⟩, placed?, if_pos zero]
      rfl
    · rw [if_pos same, if_neg fun both => zero both.2, if_pos same, placed?, if_neg zero, written]
      rfl
  · rw [if_neg same, if_neg fun both => same both.1, if_neg same]

/-- Binding a token changes nothing that sessions store. -/
@[simp] theorem token?_bound :
    (shelf.bound who apiToken life).token? other field = shelf.token? other field := by
  rw [token?, session?_bound, token?]

/-- Writing a binding changes nothing that sessions store. -/
@[simp] theorem token?_write_binding (pairs : List (String × String)) :
    (shelf.write (Key.apiToken apiToken) pairs).token? who field = shelf.token? who field := by
  rw [token?, session?_write_binding, token?]

/-- Writing a session leaves the owners of all tokens as they are. -/
@[simp] theorem owner?_write_session (pairs : List (String × String)) :
    (shelf.write (Key.session who) pairs).owner? presented = shelf.owner? presented := by
  rw [owner?, binding?_write_session, owner?]

/-- Writing a binding makes the identity the owner of its token. -/
theorem owner?_write_binding :
    (shelf.write (Key.apiToken apiToken) who.fields).owner? presented =
      if apiToken = presented then some who else shelf.owner? presented := by
  -- What was bound before is overwritten in full, so the new identity is read back.
  rw [owner?, binding?_write_binding]
  by_cases same : apiToken = presented
  · rw [if_pos same, if_pos same, Option.bind_some, written, Identity.ofFields_write]
    rfl
  · rw [if_neg same, if_neg same, owner?]

/-- Binding a token makes the identity its owner, unless the lifetime is over at once. -/
theorem owner?_bound :
    (shelf.bound who apiToken life).owner? presented =
      if apiToken ≠ "" ∧ apiToken = presented then if life.millis = 0 then none else some who
      else shelf.owner? presented := by
  -- A binding that is over at once has taken away the one that was there before.
  rw [owner?, binding?_bound]
  by_cases same : apiToken ≠ "" ∧ apiToken = presented
  · rw [if_pos same, if_pos same, placed?]
    by_cases zero : life.millis = 0
    · rw [if_pos zero, if_pos zero]
      rfl
    · rw [if_neg zero, if_neg zero, Option.bind_some, Identity.ofFields_write]
      rfl
  · rw [if_neg same, if_neg same, owner?]

/-- Whether a bearer token gets an identity in where nothing fails: the identity is named in full,
and its session stores the token. -/
def AdmitsBearer : Prop :=
  who.org ≠ 0 ∧ who.user ≠ 0 ∧ shelf.token? who Record.bearer = some bearer ∧ bearer ≠ ""

/-- Whether an API token gets an identity in where nothing fails: its binding names the identity,
and the session of the identity stores the token. -/
def AdmitsApiToken : Prop :=
  shelf.owner? apiToken = some who ∧ shelf.token? who Record.apiToken = some apiToken ∧
    apiToken ≠ ""

end Punctual

end TenantSessions
