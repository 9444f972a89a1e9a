import TenantSessions.Proofs.Session.Token
import TenantSessions.Proofs.Session.Written

/-!
Where credentials come from. What a session stores is what it was last written with, and what a
binding names is whom it was last written for, whichever commands have failed meanwhile; so every
token that gets in was presented by a creation for just this identity and has not been replaced.
-/

namespace TenantSessions

namespace Moment

/-- The grant with which a moment writes the session of an identity, if it does. -/
def kept? (who : Identity) (moment : Moment) : Option Grant :=
  match moment.incident with
  | .event (.serve (.create creator bearer apiToken life)) =>
    if creator = who ∧
        Key.session who ∈ moment.before.written (.create creator bearer apiToken life) then
      some (.ofTokens who bearer apiToken)
    else none
  | _ => none

/-- The identity for which a moment writes the binding of an API token, if it does. -/
def owner? (apiToken : String) (moment : Moment) : Option Identity :=
  match moment.incident with
  | .event (.serve (.create creator bearer token life)) =>
    if token = apiToken ∧
        Key.apiToken apiToken ∈ moment.before.written (.create creator bearer token life) then
      some creator
    else none
  | _ => none

end Moment

/-- The last bearer token with which the session of an identity was written, among moments of which
the last one comes first. -/
def lastBearer? (who : Identity) (past : List Moment) : Option String :=
  past.findSome? fun moment => (moment.kept? who).bind Grant.bearer

/-- The last API token with which the session of an identity was written. -/
def lastApiToken? (who : Identity) (past : List Moment) : Option String :=
  past.findSome? fun moment => (moment.kept? who).bind Grant.apiToken

/-- What the session of an identity was last made to store in a field. -/
def lastHeld? (who : Identity) (field : String) (past : List Moment) : Option String :=
  past.findSome? fun moment => (moment.kept? who).bind (·.held field)

/-- The identity for which the binding of an API token was written last. -/
def lastOwner? (apiToken : String) (past : List Moment) : Option Identity :=
  past.findSome? (Moment.owner? apiToken)

/-- What a session was last made to store as its bearer token is its last bearer token. -/
theorem lastHeld?_bearer (who : Identity) (past : List Moment) :
    lastHeld? who Record.bearer past = lastBearer? who past := by
  simp only [lastHeld?, lastBearer?, Grant.held_bearer]

/-- What a session was last made to store as its API token is its last API token. -/
theorem lastHeld?_apiToken (who : Identity) (past : List Moment) :
    lastHeld? who Record.apiToken past = lastApiToken? who past := by
  simp only [lastHeld?, lastApiToken?, Grant.held_apiToken]

namespace Moment

variable (before : Registrar Memory) (who other : Identity) (bearer apiToken presented : String)
  (life : Lifetime)

/-- A creation writes the session of its identity if nothing stops it before. -/
theorem kept?_create :
    kept? other ⟨before, .event (.serve (.create who bearer apiToken life))⟩ =
      if who = other ∧
          Session.refusal? who bearer apiToken before.bindingLife life = none ∧
          .write ∉ before.shelf.failing ∧
          (apiToken ≠ "" → before.shelf.limitFault? before.bindingLife = none) then
        some (.ofTokens other bearer apiToken)
      else none := by
  simp only [kept?, Registrar.written_eq, Request.dialogue, Punctual.session_mem_written_iff]
  by_cases same : who = other
  · simp [same]
  · simp [same]

/-- A creation writes the session of its own identity, and with its own tokens. -/
theorem of_kept?_create {before : Registrar Memory} {who other : Identity}
    {bearer apiToken : String} {life : Lifetime} {grant : Grant}
    (kept : kept? other ⟨before, .event (.serve (.create who bearer apiToken life))⟩ = some grant) :
    who = other ∧ grant = .ofTokens other bearer apiToken := by
  rw [kept?_create, Option.ite_none_right_eq_some, Option.some.injEq] at kept
  exact ⟨kept.1.1, kept.2.symm⟩

/-- A creation writes the binding of its API token if it has one and nothing stops it before. -/
theorem owner?_create :
    owner? presented ⟨before, .event (.serve (.create who bearer apiToken life))⟩ =
      if (apiToken ≠ "" ∧ apiToken = presented) ∧
          Session.refusal? who bearer apiToken before.bindingLife life = none ∧
          .write ∉ before.shelf.failing then
        some who
      else none := by
  simp only [owner?, Registrar.written_eq, Request.dialogue, Punctual.binding_mem_written_iff]
  by_cases same : apiToken = presented
  · simp [same]
  · simp [same]

/-- A grant that a moment keeps is that of a creation for the identity. -/
theorem creates_of_kept? {who : Identity} {moment : Moment} {grant : Grant}
    (kept : moment.kept? who = some grant) : moment.incident.Creates who := by
  unfold kept? at kept
  split at kept
  · rename_i created
    rw [Option.ite_none_right_eq_some] at kept
    rw [created]
    exact kept.1.1
  · cases kept

/-- Only a creation writes a binding, and for its own identity. -/
theorem creates_of_owner? {who : Identity} {apiToken : String} {moment : Moment}
    (owned : moment.owner? apiToken = some who) : moment.incident.Creates who := by
  unfold owner? at owned
  split at owned
  · rename_i created
    rw [Option.ite_none_right_eq_some, Option.some.injEq] at owned
    rw [created]
    exact owned.2
  · cases owned

end Moment

/-- What a moment hands down: what sessions store after it is what they are written with in it, or
else was stored before, and likewise the bindings. -/
structure HandsDown (moment : Moment) (after : Punctual) : Prop where
  token : ∀ who field token, after.token? who field = some token →
    ((moment.kept? who).bind (·.held field)).or (moment.before.shelf.token? who field) =
      some token
  binding : ∀ apiToken entry, after.binding? apiToken = some entry →
    (∃ who, moment.owner? apiToken = some who ∧ who.org ≠ 0 ∧ who.user ≠ 0 ∧
      entry.fields =
        ((moment.before.shelf.binding? apiToken).getD .blank).fields.write who.fields) ∨
    (moment.owner? apiToken = none ∧ moment.before.shelf.binding? apiToken = some entry)

namespace HandsDown

variable {moment : Moment} {after : Punctual}

/-- The owner of a token after a moment is the one for whom it is bound in it, or else the owner
before. -/
theorem owner (handed : HandsDown moment after) {apiToken : String} {who : Identity}
    (owned : after.owner? apiToken = some who) :
    (moment.owner? apiToken = some who ∧ who.org ≠ 0 ∧ who.user ≠ 0) ∨
      (moment.owner? apiToken = none ∧ moment.before.shelf.owner? apiToken = some who) := by
  obtain ⟨entry, found, named⟩ := Option.bind_eq_some_iff.mp owned
  rcases handed.binding apiToken entry found with ⟨writer, writes, org, user, fields⟩ | ⟨none, kept⟩
  · -- The identity that is written is read back.
    rw [fields, Identity.ofFields_write] at named
    cases named
    exact .inl ⟨writes, org, user⟩
  · exact .inr ⟨none, Option.bind_eq_some_iff.mpr ⟨entry, kept, named⟩⟩

/-- Where nothing is created, a moment hands down if it adds no entry. -/
theorem of_subset (others : ∀ who, ¬ moment.incident.Creates who)
    (subset : ∀ (key : String) (entry : Entry), after.entries[key]? = some entry →
      moment.before.shelf.entries[key]? = some entry) : HandsDown moment after := by
  have unkept : ∀ who, moment.kept? who = none := fun who =>
    Option.eq_none_iff_forall_ne_some.mpr fun _ kept => others who (Moment.creates_of_kept? kept)
  have unowned : ∀ apiToken, moment.owner? apiToken = none := fun _ =>
    Option.eq_none_iff_forall_ne_some.mpr fun who owned =>
      others who (Moment.creates_of_owner? owned)
  have stored : ∀ who field token, after.token? who field = some token →
      moment.before.shelf.token? who field = some token := by
    intro who field token holds
    obtain ⟨entry, found, read⟩ := Option.bind_eq_some_iff.mp holds
    exact Option.bind_eq_some_iff.mpr ⟨entry, subset _ entry found, read⟩
  refine ⟨fun who field token holds => ?_, fun apiToken entry found => ?_⟩
  · rw [unkept who]
    exact stored who field token holds
  · exact .inr ⟨unowned apiToken, subset _ entry found⟩

end HandsDown

/-- An incident that creates no session adds no entry to the cache and changes none. -/
theorem Incident.entries_subset {before after : Registrar Memory} {incident : Incident}
    (undergone : before.undergo? incident = some after) (others : ∀ who, ¬ incident.Creates who)
    (key : String) (entry : Entry) (found : after.shelf.entries[key]? = some entry) :
    before.shelf.entries[key]? = some entry := by
  cases incident with
  | fail => cases undergone; exact found
  | heal => cases undergone; exact found
  | event event =>
    cases event with
    | reopen => cases undergone; exact found
    | pass span =>
      -- Time takes away the entries whose deadline comes.
      rw [Registrar.shelf_of_pass undergone, Punctual.getElem?_reach] at found
      exact (Option.filter_eq_some_iff.mp found).1
    | serve request =>
      cases undergone
      cases request with
      | create creator => exact absurd rfl (others creator)
      | checkBearer who bearer => rwa [(before.serve_checkBearer who bearer).2] at found
      | resolve apiToken => rwa [(before.serve_resolve apiToken).2] at found
      | revoke who =>
        rcases before.serve_revoke who with ⟨-, left⟩ | ⟨_, -, left⟩
        · rw [left, Punctual.getElem?_delete, Option.ite_none_left_eq_some] at found
          exact found.2
        · rwa [left] at found
      | revokeOrg org =>
        rcases before.serve_revokeOrg org with ⟨_, -, left⟩ | ⟨_, -, left⟩
        · rw [left, Punctual.getElem?_delete, Option.ite_none_left_eq_some] at found
          exact found.2
        · rwa [left] at found

/-- A creation hands down that writes its session, with or without a new deadline. -/
theorem handsDown_kept {before : Registrar Memory} {who : Identity} {bearer apiToken : String}
    {life : Lifetime} {left : Punctual}
    (accepted : Session.refusal? who bearer apiToken before.bindingLife life = none)
    (limited : apiToken ≠ "" → before.shelf.limitFault? before.bindingLife = none)
    (writable : .write ∉ before.shelf.failing)
    (stored : ∀ other field token, left.token? other field = some token →
      ((before.shelf.bound who apiToken before.bindingLife).write (Key.session who)
        (Grant.ofTokens who bearer apiToken).fields).token? other field = some token)
    (bound : ∀ presented, left.binding? presented =
      (before.shelf.bound who apiToken before.bindingLife).binding? presented) :
    HandsDown ⟨before, .event (.serve (.create who bearer apiToken life))⟩ left := by
  have kept (other : Identity) :
      Moment.kept? other ⟨before, .event (.serve (.create who bearer apiToken life))⟩ =
        if who = other then some (.ofTokens other bearer apiToken) else none := by
    rw [Moment.kept?_create]
    by_cases same : who = other
    · rw [if_pos ⟨same, accepted, writable, limited⟩, if_pos same]
    · rw [if_neg fun all => same all.1, if_neg same]
  constructor
  · intro other field token holds
    have written := stored other field token holds
    rw [Punctual.token?_write_session, Punctual.token?_bound, Punctual.token?_bound] at written
    rw [kept]
    by_cases same : who = other
    · subst same
      rw [if_pos rfl] at written ⊢
      exact written
    · rw [if_neg same] at written ⊢
      exact written
  · intro presented entry found
    obtain ⟨org, user⟩ := Session.named_of_accepted accepted
    rw [bound, Punctual.binding?_bound] at found
    rw [Moment.owner?_create]
    by_cases same : apiToken ≠ "" ∧ apiToken = presented
    · -- A binding that is over at once is not there to be looked at.
      rw [if_pos same, Punctual.placed?, Option.ite_none_left_eq_some, Option.some.injEq] at found
      obtain ⟨-, rfl⟩ := found
      exact .inl ⟨who, if_pos ⟨same, accepted, writable⟩, org, user, by rw [← same.2]⟩
    · rw [if_neg same] at found
      exact .inr ⟨if_neg fun both => same both.1, found⟩

/-- A creation hands down, however far it comes. -/
theorem handsDown_create (before : Registrar Memory) (who : Identity) (bearer apiToken : String)
    (life : Lifetime) :
    HandsDown ⟨before, .event (.serve (.create who bearer apiToken life))⟩
      (before.serve (.create who bearer apiToken life)).2.shelf := by
  have ended := before.creation who bearer apiToken life
  have kept := fun other => Moment.kept?_create before who other bearer apiToken life
  have owner := fun presented => Moment.owner?_create before who bearer apiToken presented life
  generalize (before.serve (.create who bearer apiToken life)).1 = answer,
    (before.serve (.create who bearer apiToken life)).2.shelf = left at ended
  -- Each end tells which of the two writes has been performed.
  cases ended with
  | refused failure refusal =>
    constructor <;> simp [kept, owner, refusal]
  | unwritten accepted outage =>
    constructor <;> simp [kept, owner, outage]
  | halfBound accepted token fault found writable =>
    obtain ⟨org, user⟩ := Session.named_of_accepted accepted
    constructor
    · simp [kept, token, found]
    · intro presented entry found
      rw [owner]
      rw [Punctual.binding?_write_binding] at found
      by_cases same : apiToken = presented
      · subst same
        rw [if_pos rfl, Option.some.injEq] at found
        exact .inl ⟨who, if_pos ⟨⟨token, rfl⟩, accepted, writable⟩, org, user, found ▸ rfl⟩
      · rw [if_neg same] at found
        exact .inr ⟨if_neg fun both => same both.1.2, found⟩
  | halfKept accepted limited fault found writable =>
    refine handsDown_kept accepted limited writable (fun _ _ _ holds => holds) fun presented => ?_
    rw [Punctual.binding?_write_session]
  | complete accepted limited found writable =>
    refine handsDown_kept accepted limited writable (fun other field token holds => ?_)
      fun presented => ?_
    · rw [Punctual.token?_place_session, Option.ite_none_left_eq_some] at holds
      exact holds.2
    · rw [Punctual.binding?_place_session]

/-- Every moment hands down. -/
theorem handsDown {before after : Registrar Memory} {incident : Incident}
    (undergone : before.undergo? incident = some after) :
    HandsDown ⟨before, incident⟩ after.shelf := by
  by_cases others : ∀ who, ¬ incident.Creates who
  · exact .of_subset others (Incident.entries_subset undergone others)
  -- An incident that creates a session for somebody is a creation.
  · obtain ⟨who, creates⟩ := Classical.not_forall_not.mp others
    obtain ⟨bearer, apiToken, life, rfl⟩ := Incident.eq_create creates
    cases undergone
    exact handsDown_create ..

/-- What is known of credentials from what has happened. -/
structure Traced (past : List Moment) (shelf : Punctual) : Prop where
  token : ∀ who field token, shelf.token? who field = some token →
    lastHeld? who field past = some token
  owner : ∀ apiToken who, shelf.owner? apiToken = some who →
    lastOwner? apiToken past = some who ∧ who.org ≠ 0 ∧ who.user ≠ 0
  fields : ∀ apiToken entry, shelf.binding? apiToken = some entry →
    ∃ who : Identity, entry.fields = .ofPairs who.fields

/-- The last of what moments give is what the last moment gives, or else what was last given before.
-/
theorem findSome?_cons_eq_or {α : Type} (given? : Moment → Option α) (moment : Moment)
    (past : List Moment) :
    (moment :: past).findSome? given? = (given? moment).or (past.findSome? given?) := by
  rw [List.findSome?_cons]
  cases given? moment <;> rfl

/-- What is known of credentials is known after every moment. -/
theorem Traced.step {past : List Moment} {after : Punctual} (moment : Moment)
    (traced : Traced past moment.before.shelf) (handed : HandsDown moment after) :
    Traced (moment :: past) after := by
  -- What is not handed down from the moment itself was there before, and is known from then.
  refine ⟨fun who field token holds => ?_, fun apiToken who owned => ?_,
    fun apiToken entry found => ?_⟩
  · rw [lastHeld?, findSome?_cons_eq_or]
    rcases Option.or_eq_some_iff.mp (handed.token who field token holds) with now | ⟨none, stored⟩
    · rw [now, Option.some_or]
    · rw [none, Option.none_or]
      exact traced.token who field token stored
  · rw [lastOwner?, findSome?_cons_eq_or]
    rcases handed.owner owned with ⟨now, org, user⟩ | ⟨none, before⟩
    · exact ⟨by rw [now, Option.some_or], org, user⟩
    · rw [none, Option.none_or]
      exact traced.owner apiToken who before
  · rcases handed.binding apiToken entry found with ⟨who, -, -, -, fields⟩ | ⟨-, kept⟩
    · refine ⟨who, fields.trans ?_⟩
      cases before : moment.before.shelf.binding? apiToken with
      | none => rfl
      | some old =>
        obtain ⟨writer, written⟩ := traced.fields apiToken old before
        rw [Option.getD_some, written, Fields.write_identity_identity]
    · exact traced.fields apiToken entry kept

/-- A binding that is placed has the fields of its identity and no other, whatever it replaces. -/
theorem Traced.placed?_binding {past : List Moment} {shelf : Punctual} (traced : Traced past shelf)
    (apiToken : String) (who : Identity) (life : Lifetime) (deadline : Instant) :
    Punctual.placed? (shelf.binding? apiToken) who.fields life deadline =
      if life.millis = 0 then none else some ⟨.ofPairs who.fields, some deadline⟩ := by
  rw [Punctual.placed?]
  cases found : shelf.binding? apiToken with
  | none => rfl
  | some entry =>
    obtain ⟨writer, written⟩ := traced.fields apiToken entry found
    rw [Option.getD_some, written, Fields.write_identity_identity]

/-- What is known of credentials is known all along a chronicle. -/
theorem Chronicle.traced {bindingLife : Option Lifetime} {past : List Moment}
    {registrar : Registrar Memory} (chronicle : Chronicle bindingLife past registrar) :
    Traced past registrar.shelf := by
  -- The induction is on the chronicle, and each of its moments hands down.
  induction chronicle with
  | start =>
    have nothing (key : String) :
        (Registrar.new Memory.empty bindingLife).shelf.entries[key]? = none := by
      simp [Registrar.shelf, Registrar.new, Memory.punctual, Memory.getElem?_live, Memory.empty]
    constructor
    · simp [Punctual.token?, Punctual.session?, nothing]
    · simp [Punctual.owner?, Punctual.binding?, nothing]
    · simp [Punctual.binding?, nothing]
  | @step past before after incident _ undergone ih =>
    exact Traced.step ⟨before, incident⟩ ih (handsDown undergone)

namespace Registrar

/-- A bearer token that gets in is stored in the session of its identity. -/
theorem token?_of_checkBearer {registrar : Registrar Memory} {who : Identity} {bearer : String}
    (accepted : (registrar.serve (.checkBearer who bearer)).1 = .ok ()) :
    registrar.shelf.token? who Record.bearer = some bearer := by
  rw [(registrar.serve_checkBearer who bearer).1, Punctual.bearerVerdict_eq_ok_iff] at accepted
  obtain ⟨-, -, -, -, confirmed⟩ := accepted
  exact ((Punctual.confirms_iff_token? ..).mp confirmed).1

/-- An API token that gets in is bound to its identity and stored in the session. -/
theorem token?_of_resolve {registrar : Registrar Memory} {who : Identity} {apiToken : String}
    (accepted : (registrar.serve (.resolve apiToken)).1 = .ok who) :
    registrar.shelf.owner? apiToken = some who ∧
      registrar.shelf.token? who Record.apiToken = some apiToken := by
  rw [(registrar.serve_resolve apiToken).1, Punctual.resolution_eq_ok_iff] at accepted
  obtain ⟨-, -, -, owned, confirmed⟩ := accepted
  exact ⟨owned, ((Punctual.confirms_iff_token? ..).mp confirmed).1⟩

end Registrar

/-- A bearer token that gets an identity in is the last one with which a creation for this identity
has written its session. An API token that does is the last API token of its session alike, its
binding was last written for this identity, and the identity is named in full. So at any time there
is no more than one token of each kind that gets an identity in. -/
theorem credentials_traced {bindingLife : Option Lifetime} {past : List Moment}
    {registrar : Registrar Memory} (chronicle : Chronicle bindingLife past registrar) :
    (∀ who bearer, (registrar.serve (.checkBearer who bearer)).1 = .ok () →
      lastBearer? who past = some bearer) ∧
    (∀ who apiToken, (registrar.serve (.resolve apiToken)).1 = .ok who →
      lastApiToken? who past = some apiToken ∧ lastOwner? apiToken past = some who ∧
        who.org ≠ 0 ∧ who.user ≠ 0) ∧
    (∀ who first second, (registrar.serve (.checkBearer who first)).1 = .ok () →
      (registrar.serve (.checkBearer who second)).1 = .ok () → first = second) ∧
    ∀ who first second, (registrar.serve (.resolve first)).1 = .ok who →
      (registrar.serve (.resolve second)).1 = .ok who → first = second := by
  have traced := chronicle.traced
  have bearer : ∀ who bearer, (registrar.serve (.checkBearer who bearer)).1 = .ok () →
      lastBearer? who past = some bearer := fun who bearer accepted =>
    (lastHeld?_bearer who past).symm.trans
      (traced.token who _ bearer (Registrar.token?_of_checkBearer accepted))
  have apiToken : ∀ who apiToken, (registrar.serve (.resolve apiToken)).1 = .ok who →
      lastApiToken? who past = some apiToken := fun who apiToken accepted =>
    (lastHeld?_apiToken who past).symm.trans
      (traced.token who _ apiToken (Registrar.token?_of_resolve accepted).2)
  refine ⟨bearer, fun who token accepted => ⟨apiToken who token accepted, ?_⟩, ?_, ?_⟩
  · exact traced.owner token who (Registrar.token?_of_resolve accepted).1
  -- The last token of a kind is one token, however many are presented.
  · intro who first second one other
    exact Option.some.inj ((bearer who first one).symm.trans (bearer who second other))
  · intro who first second one other
    exact Option.some.inj ((apiToken who first one).symm.trans (apiToken who second other))

/-- A session is renewed by a creation that cannot limit it: the renewed bearer token gets in, and
so does the API token that the session was opened with. -/
theorem credentials_traced_renewed :
    ∃ past registrar, Chronicle none past registrar ∧ past.length = 4 ∧
      (registrar.serve (.checkBearer ⟨7, 42⟩ "renewed")).1 = .ok () ∧
      lastBearer? ⟨7, 42⟩ past = some "renewed" ∧
      (registrar.serve (.resolve "api")).1 = .ok ⟨7, 42⟩ ∧
      lastApiToken? ⟨7, 42⟩ past = some "api" ∧ lastOwner? "api" past = some ⟨7, 42⟩ := by
  have chronicle := Chronicle.step (.step (.step (.step (.start : Chronicle none _ _)
    (rfl : Registrar.undergo? _
      (.event (.serve (.create ⟨7, 42⟩ "jwt" "api" (.ofSeconds 3600)))) = some _))
    (rfl : Registrar.undergo? _ (.fail .expire) = some _))
    (rfl : Registrar.undergo? _
      (.event (.serve (.create ⟨7, 42⟩ "renewed" "" (.ofSeconds 3600)))) = some _))
    (rfl : Registrar.undergo? _ .heal = some _)
  obtain ⟨bearer, apiToken, -, -⟩ := credentials_traced chronicle
  obtain ⟨stored, owned, -, -⟩ := apiToken ⟨7, 42⟩ "api" rfl
  exact ⟨_, _, chronicle, rfl, rfl, bearer _ _ rfl, rfl, stored, owned⟩

end TenantSessions
