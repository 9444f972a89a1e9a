import TenantSessions.Proofs.Chronicle

/-!
What one incident can do to the session of one identity: nothing but what the identity asks for by a
creation or suffers by a revocation, and time.
-/

namespace TenantSessions

/-- What becomes of the session of an identity in a moment. -/
inductive Fate (who : Identity) (moment : Moment) : Option Entry → Prop where
  /-- The moment is about something else. -/
  | spared (unsettled : ¬ moment.Settles who) (unstopped : ¬ moment.StopsAtLimit who) :
      Fate who moment (moment.before.shelf.session? who)
  /-- Time passes. -/
  | aged (unsettled : ¬ moment.Settles who) (unstopped : ¬ moment.StopsAtLimit who)
      (later : Instant) :
      Fate who moment ((moment.before.shelf.session? who).filter fun entry =>
        !entry.hasLapsed later)
  /-- The session is revoked, or opened for a lifetime that is over at once. -/
  | ended (settled : moment.Settles who) : Fate who moment none
  /-- The session is opened for the lifetime that is asked for. -/
  | limited (settled : moment.Settles who) (fields : Fields) (bound : Instant)
      (asked : moment.bound? who = some bound) : Fate who moment (some ⟨fields, some bound⟩)
  /-- The session is written, and has no deadline but that of a session that it continues. -/
  | halfKept (unsettled : ¬ moment.Settles who) (stopped : moment.StopsAtLimit who)
      (fields : Fields) :
      Fate who moment (some ⟨fields, (moment.before.shelf.session? who).bind Entry.deadline⟩)

/-- A creation settles the session of its identity exactly if it is answered well. -/
theorem settles_create (before : Registrar Memory) (who : Identity) (bearer apiToken : String)
    (life : Lifetime) :
    Moment.Settles who ⟨before, .event (.serve (.create who bearer apiToken life))⟩ ↔
      (before.serve (.create who bearer apiToken life)).1 = .ok () := by
  constructor
  · rintro (⟨_, _, _, same, done⟩ | ⟨revoked, -⟩ | ⟨_, revoked, -⟩)
    · cases same
      exact done
    · cases revoked
    · cases revoked
  · intro done
    exact .inl ⟨bearer, apiToken, life, rfl, done⟩

/-- A creation stops at the limit of its session exactly if it fails there, and not for the length
of the lifetime. -/
theorem stopsAtLimit_create (before : Registrar Memory) (who : Identity) (bearer apiToken : String)
    (life : Lifetime) :
    Moment.StopsAtLimit who ⟨before, .event (.serve (.create who bearer apiToken life))⟩ ↔
      ∃ fault, (before.serve (.create who bearer apiToken life)).1 =
        .error (.cache (.limitingSession who) fault) ∧ fault ≠ .lifetimeTooLong life := by
  constructor
  · rintro ⟨_, _, _, fault, same, failed, other⟩
    cases same
    exact ⟨fault, failed, other⟩
  · rintro ⟨fault, failed, other⟩
    exact ⟨bearer, apiToken, life, fault, rfl, failed, other⟩

/-- What a creation does to the session of its identity is one of these fates. -/
theorem fate_create (before : Registrar Memory) (who : Identity) (bearer apiToken : String)
    (life : Lifetime) :
    Fate who ⟨before, .event (.serve (.create who bearer apiToken life))⟩
      ((before.serve (.create who bearer apiToken life)).2.shelf.session? who) := by
  have ended := before.creation who bearer apiToken life
  have settles := settles_create before who bearer apiToken life
  have stops := stopsAtLimit_create before who bearer apiToken life
  have asked : Moment.bound? who ⟨before, .event (.serve (.create who bearer apiToken life))⟩ =
      some (life.overAt before.cache.now) := if_pos rfl
  -- What a creation answers tells how far it came, and with that what it wrote.
  generalize (before.serve (.create who bearer apiToken life)).1 = answer,
    (before.serve (.create who bearer apiToken life)).2.shelf = left at ended settles stops
  cases ended with
  -- What is refused leaves the session alone, and it stops at no limit but that of its length.
  | refused failure refusal =>
    refine .spared (by simp [settles]) ?_
    rw [stops]
    rintro ⟨fault, failed, other⟩
    cases failed
    exact other (Session.tooLong_of_refusal refusal)
  | unwritten accepted outage stage first =>
    refine .spared (by simp [settles]) ?_
    rw [stops]
    rintro ⟨fault, failed, -⟩
    cases failed
    split at first <;> cases first
  | halfBound =>
    rw [Punctual.session?_write_binding]
    exact .spared (by simp [settles]) (by simp [stops])
  | halfKept accepted limited fault found =>
    have short := (Session.short_of_accepted accepted).2
    rw [Punctual.session?_write_session, if_pos rfl, Punctual.session?_bound, Punctual.written_eq]
    exact .halfKept (by simp [settles])
      (stops.mpr ⟨fault, rfl, Punctual.limitFault?_ne_tooLong short found⟩) _
  | complete =>
    have settled := settles.mpr rfl
    rw [Punctual.session?_place_session, if_pos rfl, Punctual.placed?]
    by_cases zero : life.millis = 0
    · rw [if_pos zero]
      exact .ended settled
    · rw [if_neg zero]
      exact .limited settled _ _ (by rw [Punctual.bound_now]; exact asked)

/-- The session of an identity has one of these fates in every moment of its registrar. -/
theorem fate {before after : Registrar Memory} {incident : Incident} (who : Identity)
    (undergone : before.undergo? incident = some after) :
    Fate who ⟨before, incident⟩ (after.shelf.session? who) := by
  cases incident with
  | fail kind =>
    cases undergone
    exact .spared (by simp [Moment.Settles]) (by simp [Moment.StopsAtLimit])
  | heal =>
    cases undergone
    exact .spared (by simp [Moment.Settles]) (by simp [Moment.StopsAtLimit])
  | event event =>
    cases event with
    | reopen bindingLife =>
      cases undergone
      exact .spared (by simp [Moment.Settles]) (by simp [Moment.StopsAtLimit])
    | pass span =>
      rw [Registrar.shelf_of_pass undergone, Punctual.session?, Punctual.getElem?_reach]
      exact .aged (by simp [Moment.Settles]) (by simp [Moment.StopsAtLimit]) _
    | serve request =>
      cases undergone
      cases request with
      | checkBearer other bearer =>
        rw [(before.serve_checkBearer other bearer).2]
        exact .spared (by simp [Moment.Settles]) (by simp [Moment.StopsAtLimit])
      | resolve apiToken =>
        rw [(before.serve_resolve apiToken).2]
        exact .spared (by simp [Moment.Settles]) (by simp [Moment.StopsAtLimit])
      | revoke other =>
        rcases before.serve_revoke other with ⟨done, left⟩ | ⟨failure, failed, left⟩
        · rw [left, Punctual.session?_delete_session]
          by_cases same : other = who
          · subst same
            rw [if_pos rfl]
            exact .ended (.inr (.inl ⟨rfl, done⟩))
          · rw [if_neg same]
            exact .spared (by simp [Moment.Settles, same]) (by simp [Moment.StopsAtLimit])
        · rw [left]
          refine .spared ?_ (by simp [Moment.StopsAtLimit])
          rintro (⟨_, _, _, created, -⟩ | ⟨revoked, answer⟩ | ⟨_, revoked, -⟩)
          · cases created
          · cases revoked
            rw [failed] at answer
            cases answer
          · cases revoked
      | revokeOrg org =>
        rcases before.serve_revokeOrg org with ⟨count, done, left⟩ | ⟨failure, failed, left⟩
        · rw [left, Punctual.session?_delete_orgKeys]
          by_cases same : who.org = org
          · subst same
            rw [if_pos rfl]
            exact .ended (.inr (.inr ⟨count, rfl, done⟩))
          · rw [if_neg same]
            exact .spared (by simp [Moment.Settles, Ne.symm same]) (by simp [Moment.StopsAtLimit])
        · rw [left]
          refine .spared ?_ (by simp [Moment.StopsAtLimit])
          rintro (⟨_, _, _, created, -⟩ | ⟨revoked, -⟩ | ⟨_, revoked, answer⟩)
          · cases created
          · cases revoked
          · cases revoked
            rw [failed] at answer
            cases answer
      | create creator bearer apiToken life =>
        by_cases same : creator = who
        · subst same
          exact fate_create before creator bearer apiToken life
        · rw [(before.creation creator bearer apiToken life).session?_other same]
          exact .spared (by simp [Moment.Settles, same]) (by simp [Moment.StopsAtLimit, same])

end TenantSessions
