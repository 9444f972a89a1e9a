import TenantSessions.Proofs.Fate

/-! A session that has been revoked, or has come to its deadline, is gone for good: nothing short of
a creation for its identity lets any token in again. -/

namespace TenantSessions

namespace Incident

/-- An incident that does not create a session for an identity leaves it the session it has, or
none. -/
theorem session?_dwindles {before after : Registrar Memory} {incident : Incident} {who : Identity}
    (undergone : before.undergo? incident = some after) (others : ¬ incident.Creates who) :
    after.shelf.session? who = before.shelf.session? who ∨ after.shelf.session? who = none := by
  have fate := fate who undergone
  -- The fates that leave a new session behind are those of a creation.
  generalize after.shelf.session? who = left at fate
  cases fate with
  | spared => exact .inl rfl
  | aged _ _ later =>
    cases before.shelf.session? who with
    | none => exact .inl rfl
    | some entry => by_cases lapsed : entry.hasLapsed later <;> simp [Option.filter, lapsed]
  | ended => exact .inr rfl
  | limited _ _ _ asked => exact absurd (Moment.creates_of_bound? asked) others
  | halfKept _ stopped => exact absurd (Moment.creates_of_stopsAtLimit stopped) others

end Incident

namespace Registrar

/-- Incidents that create no session for an identity leave it the session it has, or none. -/
theorem session?_dwindles {who : Identity} {script : List Incident}
    {registrar later : Registrar Memory}
    (undergone : registrar.undergoAll? script = some later)
    (others : ∀ incident ∈ script, ¬ incident.Creates who) :
    later.shelf.session? who = registrar.shelf.session? who ∨ later.shelf.session? who = none := by
  -- What one incident leaves, the rest of the script leaves or takes away.
  induction script generalizing registrar with
  | nil =>
    cases undergone
    exact .inl rfl
  | cons incident script ih =>
    obtain ⟨next, first, rest⟩ := Option.bind_eq_some_iff.mp undergone
    have step := Incident.session?_dwindles first (others incident List.mem_cons_self)
    rcases ih rest fun incident member => others incident (List.mem_cons_of_mem _ member) with
      kept | gone
    · rw [kept]
      exact step
    · exact .inr gone

/-- Whether no token at all gets an identity in. -/
def Shuts (registrar : Registrar Memory) (who : Identity) : Prop :=
  (∀ bearer, (registrar.serve (.checkBearer who bearer)).1 ≠ .ok ()) ∧
    ∀ apiToken, (registrar.serve (.resolve apiToken)).1 ≠ .ok who

/-- Without a session, no token gets an identity in. -/
theorem shuts_of_session? {registrar : Registrar Memory} {who : Identity}
    (gone : registrar.shelf.session? who = none) : registrar.Shuts who := by
  -- Whoever gets in has a session, whichever token is presented.
  constructor
  · intro bearer accepted
    obtain ⟨entry, found⟩ := session?_of_checkBearer accepted
    rw [gone] at found
    cases found
  · intro apiToken accepted
    obtain ⟨entry, found⟩ := session?_of_resolve accepted
    rw [gone] at found
    cases found

/-- An identity without a session stays shut out until one is created for it. -/
theorem shuts_of_gone {who : Identity} {script : List Incident} {registrar later : Registrar Memory}
    (gone : registrar.shelf.session? who = none)
    (undergone : registrar.undergoAll? script = some later)
    (others : ∀ incident ∈ script, ¬ incident.Creates who) : later.Shuts who := by
  -- There was no session to begin with, and none comes back by itself.
  rcases session?_dwindles undergone others with kept | still
  · exact shuts_of_session? (kept.trans gone)
  · exact shuts_of_session? still

/-- After a revocation of an identity that is answered well there is no session of it. -/
theorem session?_of_revoke {registrar : Registrar Memory} {who : Identity}
    (done : (registrar.serve (.revoke who)).1 = .ok ()) :
    (registrar.serve (.revoke who)).2.shelf.session? who = none := by
  -- A revocation that is answered well has deleted the session.
  rcases registrar.serve_revoke who with ⟨-, left⟩ | ⟨failure, failed, -⟩
  · rw [left, Punctual.session?_delete_session, if_pos rfl]
  · rw [failed] at done
    cases done

/-- After a revocation of an org that is answered well there is no session in the org. -/
theorem session?_of_revokeOrg {registrar : Registrar Memory} {org : Id} {count : Nat}
    (done : (registrar.serve (.revokeOrg org)).1 = .ok count) {who : Identity}
    (member : who.org = org) :
    (registrar.serve (.revokeOrg org)).2.shelf.session? who = none := by
  -- All that the pattern of the org selects is deleted, and it selects every session of the org.
  rcases registrar.serve_revokeOrg org with ⟨_, -, left⟩ | ⟨failure, failed, -⟩
  · rw [left, Punctual.session?_delete_orgKeys, if_pos member]
  · rw [failed] at done
    cases done

/-- A session that has a deadline is gone when the deadline has come, unless it is created anew. -/
theorem session?_of_deadline {registrar later : Registrar Memory} {who : Identity} {entry : Entry}
    {deadline : Instant} {script : List Incident}
    (found : registrar.cache.entries[Key.session who]? = some entry)
    (limited : entry.deadline = some deadline)
    (undergone : registrar.undergoAll? script = some later)
    (others : ∀ incident ∈ script, ¬ incident.Creates who) (come : deadline ≤ later.cache.now) :
    later.shelf.session? who = none := by
  rcases session?_dwindles undergone others with kept | gone
  · -- What is kept is the entry with its deadline, and it would have to be live.
    cases live : later.shelf.session? who with
    | none => rfl
    | some other =>
      have first : registrar.cache.live[Key.session who]? = some other := kept.symm.trans live
      rw [Memory.getElem?_live, found, Option.filter_eq_some_iff] at first
      obtain ⟨same, -⟩ := first
      cases same
      have alive := Memory.hasLapsed_of_live live
      simp [Entry.hasLapsed, limited, Nat.not_lt.mpr come] at alive
  · exact gone

/-- Revocations leave every binding as it is. -/
theorem binding?_of_revocation (registrar : Registrar Memory) (who : Identity) (org : Id)
    (apiToken : String) :
    (registrar.serve (.revoke who)).2.shelf.binding? apiToken =
        registrar.shelf.binding? apiToken ∧
      (registrar.serve (.revokeOrg org)).2.shelf.binding? apiToken =
        registrar.shelf.binding? apiToken := by
  constructor
  -- Whether the revocation is answered well or not, it names no binding.
  · rcases registrar.serve_revoke who with ⟨-, left⟩ | ⟨_, -, left⟩
    · rw [left, Punctual.binding?_delete_session]
    · rw [left]
  · rcases registrar.serve_revokeOrg org with ⟨_, -, left⟩ | ⟨_, -, left⟩
    · rw [left, Punctual.binding?_delete_orgKeys]
    · rw [left]

/-- Nobody of an identity is let in again, once its session or those of its org have been revoked or
the deadline of its session has come, until a session is created for it; and this although a
revocation leaves all bindings as they are. -/
theorem revocation_lasts :
    (∀ (registrar later : Registrar Memory) (who : Identity) (script : List Incident),
      (registrar.serve (.revoke who)).1 = .ok () →
      (registrar.serve (.revoke who)).2.undergoAll? script = some later →
      (∀ incident ∈ script, ¬ incident.Creates who) → later.Shuts who) ∧
    (∀ (registrar later : Registrar Memory) (org : Id) (count : Nat) (script : List Incident),
      (registrar.serve (.revokeOrg org)).1 = .ok count →
      (registrar.serve (.revokeOrg org)).2.undergoAll? script = some later →
      (∀ incident ∈ script, ∀ who, who.org = org → ¬ incident.Creates who) →
      ∀ who, who.org = org → later.Shuts who) ∧
    (∀ (registrar later : Registrar Memory) (who : Identity) (entry : Entry) (deadline : Instant)
      (script : List Incident),
      registrar.cache.entries[Key.session who]? = some entry → entry.deadline = some deadline →
      registrar.undergoAll? script = some later →
      (∀ incident ∈ script, ¬ incident.Creates who) → deadline ≤ later.cache.now →
      later.Shuts who) ∧
    ∀ (registrar : Registrar Memory) (who : Identity) (org : Id) (apiToken : String),
      (registrar.serve (.revoke who)).2.cache.live[Key.apiToken apiToken]? =
          registrar.cache.live[Key.apiToken apiToken]? ∧
        (registrar.serve (.revokeOrg org)).2.cache.live[Key.apiToken apiToken]? =
          registrar.cache.live[Key.apiToken apiToken]? := by
  -- In each of the three cases the session is gone, and what is gone stays gone.
  refine ⟨?_, ?_, ?_, ?_⟩
  · intro registrar later who script done undergone others
    exact shuts_of_gone (session?_of_revoke done) undergone others
  · intro registrar later org count script done undergone others who member
    exact shuts_of_gone (session?_of_revokeOrg done member) undergone fun incident listed =>
      others incident listed who member
  · intro registrar later who entry deadline script found limited undergone others come
    exact shuts_of_session? (session?_of_deadline found limited undergone others come)
  · intro registrar who org apiToken
    exact registrar.binding?_of_revocation who org apiToken

/-- A registrar for which a session with both tokens was opened for an hour. -/
def housed : Registrar Memory :=
  ((Registrar.new Memory.empty none).serve
    (.create ⟨7, 42⟩ "jwt" "api" (.ofSeconds 3600))).2

/-- The API token is given to somebody else while the cache fails now and then. -/
def intrusion : List Incident :=
  [.fail .expire, .event (.serve (.create ⟨8, 43⟩ "" "api" (.ofSeconds 60))), .heal]

/-- The session of an hour is gone for good when it is revoked, alone or with its org, and when the
hour has passed, whatever becomes of its API token. -/
theorem revocation_lasts_housed :
    (∃ later, (housed.serve (.revoke ⟨7, 42⟩)).1 = .ok () ∧
      (housed.serve (.revoke ⟨7, 42⟩)).2.undergoAll? intrusion = some later ∧
      later.Shuts ⟨7, 42⟩) ∧
    (∃ count later, (housed.serve (.revokeOrg 7)).1 = .ok count ∧
      (housed.serve (.revokeOrg 7)).2.undergoAll? intrusion = some later ∧
      later.Shuts ⟨7, 42⟩) ∧
    ∃ later, housed.undergoAll? (intrusion ++ [.event (.pass (.ofSeconds 3600))]) = some later ∧
      later.Shuts ⟨7, 42⟩ := by
  obtain ⟨alone, org, come, -⟩ := revocation_lasts
  refine ⟨⟨_, rfl, rfl, alone _ _ _ intrusion rfl rfl ?_⟩, ?_, ⟨_, rfl, ?_⟩⟩
  · simp [intrusion, Incident.Creates]
  · obtain ⟨count, done⟩ := serve_revokeOrg_of_sound (rfl : housed.cache.failing = []) 7
    refine ⟨count, _, done, rfl, org _ _ 7 count intrusion done rfl ?_ _ rfl⟩
    simp only [intrusion, List.mem_cons, List.not_mem_nil, or_false, forall_eq_or_imp, forall_eq,
      Incident.Creates, not_false_eq_true, implies_true, and_true, true_and]
    -- The intruder is of another org.
    intro who inOrg intruder
    subst intruder
    cases inOrg
  · refine come housed _ _ _ _ (intrusion ++ [.event (.pass (.ofSeconds 3600))]) rfl rfl rfl ?_ ?_
    · simp [intrusion, Incident.Creates]
    · decide

end Registrar

end TenantSessions
