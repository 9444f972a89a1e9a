import TenantSessions.Proofs.Chronicle
import TenantSessions.Proofs.Session.Token

/-!
What a creation that fails leaves behind. Nothing is taken back, so a creation that stops after a
write may let in a token that did not get in before; which tokens, the failure tells.
-/

namespace TenantSessions

namespace Session

/-- What a creation that fails had written when it failed. -/
inductive Progress where
  | nothing
  /-- The binding of the API token, without a deadline of its own. -/
  | binding
  /-- All of the binding, and the session without a deadline of its own. -/
  | session
deriving DecidableEq, Repr

/-- How far a creation came that reports a failure. What is too long is refused before anything is
written. -/
def progress : Failure → Progress
  | .cache (.limitingBinding _) (.lifetimeTooLong _) => .nothing
  | .cache (.limitingSession _) (.lifetimeTooLong _) => .nothing
  | .cache (.limitingBinding _) _ => .binding
  | .cache (.limitingSession _) _ => .session
  | _ => .nothing

/-- A creation that is refused has written nothing. -/
theorem progress_of_refusal {who : Identity} {bearer apiToken : String}
    {bindingLife life : Lifetime} {failure : Failure}
    (refusal : refusal? who bearer apiToken bindingLife life = some failure) :
    progress failure = .nothing := by
  -- The only limits that are refused are those of lifetimes that are too long.
  grind [refusal?, progress]

/-- A creation whose session cannot be limited has written it. -/
theorem progress_of_limitFault? {shelf : Punctual} {life : Lifetime} {fault : Fault}
    (short : ¬ Lifetime.maxMillis < life.millis) (found : shelf.limitFault? life = some fault)
    (who : Identity) :
    progress (.cache (.limitingBinding who) fault) = .binding ∧
      progress (.cache (.limitingSession who) fault) = .session := by
  -- The fault is not the length of the lifetime, so it was met after the write.
  grind [Punctual.limitFault?, progress]

end Session

namespace Registrar

/-- What gets in after a healing is what the punctual cache admits. -/
theorem checkBearer_healed_iff (registrar : Registrar Memory) (who : Identity) (bearer : String) :
    (registrar.healed.serve (.checkBearer who bearer)).1 = .ok () ↔
      registrar.shelf.AdmitsBearer who bearer := by
  -- Healing changes nothing that is kept, and afterwards no command of the check fails.
  have same : registrar.healed.shelf.token? = registrar.shelf.token? := rfl
  have sound : registrar.healed.shelf.failing = [] := rfl
  rw [(registrar.healed.serve_checkBearer who bearer).1, Punctual.bearerVerdict_eq_ok_iff, sound,
    Punctual.confirms_iff_token?, same, Punctual.AdmitsBearer]
  simp

/-- Who gets in by an API token after a healing is whom the punctual cache admits. -/
theorem resolve_healed_iff (registrar : Registrar Memory) (apiToken : String) (who : Identity) :
    (registrar.healed.serve (.resolve apiToken)).1 = .ok who ↔
      registrar.shelf.AdmitsApiToken who apiToken := by
  have same : registrar.healed.shelf.token? = registrar.shelf.token? := rfl
  have owner : registrar.healed.shelf.owner? = registrar.shelf.owner? := rfl
  have sound : registrar.healed.shelf.failing = [] := rfl
  rw [(registrar.healed.serve_resolve apiToken).1, Punctual.resolution_eq_ok_iff, sound,
    Punctual.confirms_iff_token?, same, owner, Punctual.AdmitsApiToken]
  simp

/-- Whether every token that gets in after something has happened got in before with the same
answer, where nothing fails. -/
def GrantsNothing (before after : Registrar Memory) : Prop :=
  (∀ who bearer, (after.healed.serve (.checkBearer who bearer)).1 = .ok () →
    (before.healed.serve (.checkBearer who bearer)).1 = .ok ()) ∧
  ∀ apiToken who, (after.healed.serve (.resolve apiToken)).1 = .ok who →
    (before.healed.serve (.resolve apiToken)).1 = .ok who

/-- Nothing is granted exactly if nothing is admitted that was not admitted before. -/
theorem grantsNothing_iff_admits (before after : Registrar Memory) :
    before.GrantsNothing after ↔
      (∀ who bearer, after.shelf.AdmitsBearer who bearer → before.shelf.AdmitsBearer who bearer) ∧
      ∀ apiToken who, after.shelf.AdmitsApiToken who apiToken →
        before.shelf.AdmitsApiToken who apiToken :=
  -- Both sides compare the same tokens, and each token gets in exactly if it is admitted.
  and_congr
    (forall_congr' fun who => forall_congr' fun bearer =>
      imp_congr (checkBearer_healed_iff after who bearer)
        (checkBearer_healed_iff before who bearer))
    (forall_congr' fun apiToken => forall_congr' fun who =>
      imp_congr (resolve_healed_iff after apiToken who) (resolve_healed_iff before apiToken who))

/-- Whether what a failed creation has written lets no token in that did not get in before. A
binding alone does harm where a session waits for it that stores the token; a session does harm by
each token that it is written with, where an API token needs a binding that is not over at once. -/
def IsHarmless (before : Registrar Memory) (who : Identity) (bearer apiToken : String) :
    Session.Progress → Prop
  | .nothing => True
  | .binding =>
    (∃ entry, before.cache.live[Key.session who]? = some entry ∧
      entry.fields[Record.apiToken]? = some apiToken) →
    (before.healed.serve (.resolve apiToken)).1 = .ok who
  | .session =>
    (bearer ≠ "" → (before.healed.serve (.checkBearer who bearer)).1 = .ok ()) ∧
    (apiToken ≠ "" → before.bindingLife.millis ≠ 0 →
      (before.healed.serve (.resolve apiToken)).1 = .ok who)

/-- A binding that is written gives its token to the identity, if the session of the identity stores
the token. -/
theorem grantsNothing_binding {before after : Registrar Memory} {who : Identity} {apiToken : String}
    (bearer : String) (filled : apiToken ≠ "")
    (left : after.shelf = before.shelf.write (Key.apiToken apiToken) who.fields) :
    before.GrantsNothing after ↔ before.IsHarmless who bearer apiToken .binding := by
  have stored : (∃ entry, before.cache.live[Key.session who]? = some entry ∧
      entry.fields[Record.apiToken]? = some apiToken) ↔
        before.shelf.token? who Record.apiToken = some apiToken := Option.bind_eq_some_iff.symm
  rw [grantsNothing_iff_admits, IsHarmless, resolve_healed_iff, stored]
  simp only [Punctual.AdmitsBearer, Punctual.AdmitsApiToken, left, Punctual.token?_write_binding,
    Punctual.owner?_write_binding]
  -- The write changes the owner of the token and nothing else that lets anybody in.
  constructor
  · intro grants waiting
    obtain ⟨-, resolved⟩ := grants
    exact resolved apiToken who ⟨if_pos rfl, waiting, filled⟩
  · intro harmless
    refine ⟨fun other presented accepted => accepted, ?_⟩
    intro presented other admitted
    obtain ⟨owner, holds, full⟩ := admitted
    by_cases same : apiToken = presented
    · -- Only the identity that is written owns the token now.
      subst same
      rw [if_pos rfl] at owner
      cases owner
      exact harmless holds
    · rw [if_neg same] at owner
      exact ⟨owner, holds, full⟩

/-- A session that is written lets in the tokens that it is written with, and takes the place of
others. -/
theorem grantsNothing_session {before after : Registrar Memory} {who : Identity}
    {bearer apiToken : String} (org : who.org ≠ 0) (user : who.user ≠ 0)
    (left : after.shelf = (before.shelf.bound who apiToken before.bindingLife).write
      (Key.session who) (Grant.ofTokens who bearer apiToken).fields) :
    before.GrantsNothing after ↔ before.IsHarmless who bearer apiToken .session := by
  rw [grantsNothing_iff_admits, IsHarmless, checkBearer_healed_iff, resolve_healed_iff]
  simp only [Punctual.AdmitsBearer, Punctual.AdmitsApiToken, left, Punctual.bearer?_write_session,
    Punctual.apiToken?_write_session, Punctual.token?_bound, Punctual.owner?_write_session,
    Punctual.owner?_bound]
  -- A token that is presented takes the place of the old one, and an empty one leaves it.
  have renewed (token : String) (old : Option String) (filled : token ≠ "") :
      (Grant.token? token).or old = some token := by
    rw [Grant.token?, if_neg filled, Option.some_or]
  have spared (old : Option String) : (Grant.token? "").or old = old := by
    rw [Grant.token?, if_pos rfl, Option.none_or]
  constructor
  · -- Each token that is presented gets in afterwards, so it must have got in before.
    intro grants
    obtain ⟨checked, resolved⟩ := grants
    constructor
    · intro filled
      exact checked who bearer ⟨org, user, by rw [if_pos rfl, renewed _ _ filled], filled⟩
    · intro filled lasting
      exact resolved apiToken who ⟨by rw [if_pos ⟨filled, rfl⟩, if_neg lasting],
        by rw [if_pos rfl, renewed _ _ filled], filled⟩
  · intro harmless
    obtain ⟨checked, resolved⟩ := harmless
    constructor
    · -- A bearer token is the new one or an old one, and only for this identity can it be new.
      intro other presented admitted
      obtain ⟨otherOrg, otherUser, holds, full⟩ := admitted
      by_cases same : who = other
      · subst same
        rw [if_pos rfl] at holds
        by_cases empty : bearer = ""
        · rw [empty, spared] at holds
          exact ⟨otherOrg, otherUser, holds, full⟩
        · rw [renewed _ _ empty] at holds
          cases holds
          exact checked empty
      · rw [if_neg same] at holds
        exact ⟨otherOrg, otherUser, holds, full⟩
    · -- An API token needs its binding as well, which may have gone over to this identity.
      intro presented other admitted
      obtain ⟨owner, holds, full⟩ := admitted
      by_cases same : who = other
      · subst same
        rw [if_pos rfl] at holds
        by_cases empty : apiToken = ""
        · rw [empty, spared] at holds
          rw [if_neg fun named => named.1 empty] at owner
          exact ⟨owner, holds, full⟩
        · -- The session stores the new token now, so no other gets the identity in.
          rw [renewed _ _ empty] at holds
          cases holds
          rw [if_pos ⟨empty, rfl⟩] at owner
          by_cases zero : before.bindingLife.millis = 0
          · rw [if_pos zero] at owner
            cases owner
          · exact resolved empty zero
      · rw [if_neg same] at holds
        by_cases named : apiToken ≠ "" ∧ apiToken = presented
        · rw [if_pos named, Option.ite_none_left_eq_some, Option.some.injEq] at owner
          exact absurd owner.2 same
        · rw [if_neg named] at owner
          exact ⟨owner, holds, full⟩

/-- A creation that fails lets no token in that did not get in before, exactly if what it had
written by then is harmless. -/
theorem grantsNothing_iff (registrar : Registrar Memory) (who : Identity) (bearer apiToken : String)
    (life : Lifetime) (failure : Failure)
    (failed : (registrar.serve (.create who bearer apiToken life)).1 = .error failure) :
    registrar.GrantsNothing (registrar.serve (.create who bearer apiToken life)).2 ↔
      registrar.IsHarmless who bearer apiToken (Session.progress failure) := by
  have ended := registrar.creation who bearer apiToken life
  -- Where nothing is written, the same tokens get in as before.
  have untouched : (registrar.serve (.create who bearer apiToken life)).2.shelf = registrar.shelf →
      registrar.GrantsNothing (registrar.serve (.create who bearer apiToken life)).2 := by
    intro same
    rw [grantsNothing_iff_admits, same]
    exact ⟨fun _ _ accepted => accepted, fun _ _ accepted => accepted⟩
  rw [failed] at ended
  generalize left : (registrar.serve (.create who bearer apiToken life)).2.shelf = shelf at ended
  -- The failure of each end tells how far the creation had come.
  cases ended with
  | refused _ refusal =>
    rw [Session.progress_of_refusal refusal]
    exact iff_of_true (untouched left) trivial
  | unwritten accepted outage stage first =>
    have nothing : Session.progress (.cache stage (.injected .write)) = .nothing := by
      rw [first]
      split <;> rfl
    rw [nothing]
    exact iff_of_true (untouched left) trivial
  | halfBound accepted filled fault found =>
    have short := (Session.short_of_accepted accepted).1 filled
    rw [(Session.progress_of_limitFault? short found who).1]
    exact grantsNothing_binding bearer filled left
  | halfKept accepted limited fault found =>
    obtain ⟨-, short⟩ := Session.short_of_accepted accepted
    obtain ⟨org, user⟩ := Session.named_of_accepted accepted
    rw [(Session.progress_of_limitFault? short found who).2]
    exact grantsNothing_session org user left

/-- A new registrar whose cache limits no key. -/
def jammed : Registrar Memory :=
  { Registrar.new Memory.empty none with cache := Memory.empty.fail .expire }

/-- The condition applies to the first creation of the jammed registrar, which fails. -/
theorem grantsNothing_iff_jammed :
    (jammed.serve (.create ⟨7, 42⟩ "tok-a" "" (.ofSeconds 3600))).1 =
        .error (.cache (.limitingSession ⟨7, 42⟩) (.injected .expire)) ∧
      (jammed.GrantsNothing (jammed.serve (.create ⟨7, 42⟩ "tok-a" "" (.ofSeconds 3600))).2 ↔
        jammed.IsHarmless ⟨7, 42⟩ "tok-a" "" .session) :=
  ⟨rfl, grantsNothing_iff jammed ⟨7, 42⟩ "tok-a" "" (.ofSeconds 3600) _ rfl⟩

/-- The first creation of the jammed registrar fails, and lets its bearer token in all the same. -/
theorem grants_jammed :
    (jammed.serve (.create ⟨7, 42⟩ "tok-a" "" (.ofSeconds 3600))).1 =
        .error (.cache (.limitingSession ⟨7, 42⟩) (.injected .expire)) ∧
      ¬ jammed.GrantsNothing (jammed.serve (.create ⟨7, 42⟩ "tok-a" "" (.ofSeconds 3600))).2 := by
  refine ⟨rfl, fun grants => ?_⟩
  -- Before the creation there is no session that could let the token in.
  have refused : (jammed.healed.serve (.checkBearer ⟨7, 42⟩ "tok-a")).1 =
      .error .invalidSession := rfl
  have accepted := grants.1 ⟨7, 42⟩ "tok-a" rfl
  rw [refused] at accepted
  cases accepted

end Registrar

end TenantSessions
