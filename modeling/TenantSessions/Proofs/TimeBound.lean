import TenantSessions.Proofs.Fate

/-!
Access is bounded in time by what creations ask for, with one exception: a creation that writes a
new session and then fails to limit it leaves access without an end, until a later creation for the
identity or a revocation settles it.
-/

namespace TenantSessions

/-- When the sessions are over that moments have asked for an identity. -/
def bounds (who : Identity) (past : List Moment) : List Instant :=
  past.filterMap (Moment.bound? who)

/-- Whether a new session of an identity has been left without a deadline, and no moment since then
has settled how long it lasts. -/
def LeftUnlimited (who : Identity) : List Moment → Prop
  | [] => False
  | moment :: past =>
    -- A session that is there keeps the deadline it has, and only a new one is without any.
    (moment.StopsAtLimit who ∧ moment.before.cache.live[Key.session who]? = none) ∨
      (LeftUnlimited who past ∧ ¬ moment.Settles who)

/-- Access of an identity is bounded in time: its session has a deadline no later than what some
creation asked for, and as long as any token gets the identity in, some bound has not come. -/
structure TimeBounded (who : Identity) (past : List Moment) (registrar : Registrar Memory) :
    Prop where
  session : ∀ entry, registrar.cache.live[Key.session who]? = some entry →
    ∃ deadline, entry.deadline = some deadline ∧ ∃ bound ∈ bounds who past, deadline ≤ bound
  bearer : ∀ bearer, (registrar.serve (.checkBearer who bearer)).1 = .ok () →
    ∃ bound ∈ bounds who past, registrar.cache.now < bound
  apiToken : ∀ apiToken, (registrar.serve (.resolve apiToken)).1 = .ok who →
    ∃ bound ∈ bounds who past, registrar.cache.now < bound

/-- A bound that was asked for stays asked for. -/
theorem bounds_subset_cons {who : Identity} {past : List Moment} {bound : Instant}
    (asked : bound ∈ bounds who past) (moment : Moment) : bound ∈ bounds who (moment :: past) := by
  -- The moment that asked for the bound is still among the moments.
  obtain ⟨earlier, member, found⟩ := List.mem_filterMap.mp asked
  exact List.mem_filterMap.mpr ⟨earlier, List.mem_cons_of_mem _ member, found⟩

/-- What is known of the session of an identity from what has happened. -/
structure Recorded (who : Identity) (past : List Moment) (session? : Option Entry) : Prop where
  unlimited : LeftUnlimited who past ↔ ∃ fields, session? = some ⟨fields, none⟩
  limited : ∀ fields deadline, session? = some ⟨fields, some deadline⟩ →
    ∃ bound ∈ bounds who past, deadline ≤ bound

/-- What is known of a session is known after every moment. -/
theorem Recorded.step {who : Identity} {past : List Moment} {session? : Option Entry}
    (moment : Moment) (recorded : Recorded who past (moment.before.shelf.session? who))
    (fate : Fate who moment session?) : Recorded who (moment :: past) session? := by
  -- Each fate says what has become of the session and what the moment counts for.
  cases fate with
  | spared unsettled unstopped =>
    refine ⟨?_, fun fields deadline found => ?_⟩
    · simp only [LeftUnlimited, unstopped, unsettled, false_and, false_or, not_false_eq_true,
        and_true, recorded.unlimited]
    · obtain ⟨bound, asked, below⟩ := recorded.limited fields deadline found
      exact ⟨bound, bounds_subset_cons asked moment, below⟩
  | aged unsettled unstopped later =>
    refine ⟨?_, fun fields deadline found => ?_⟩
    · -- An entry without a deadline never lapses.
      simp only [LeftUnlimited, unstopped, unsettled, false_and, false_or, not_false_eq_true,
        and_true, recorded.unlimited, Option.filter_eq_some_iff, Entry.hasLapsed, Option.any_none,
        Bool.not_false]
    · obtain ⟨kept, -⟩ := Option.filter_eq_some_iff.mp found
      obtain ⟨bound, asked, below⟩ := recorded.limited fields deadline kept
      exact ⟨bound, bounds_subset_cons asked moment, below⟩
  -- Where there is no session there is nothing to bound.
  | ended settled =>
    have unstopped := Moment.not_stopsAtLimit_of_settles settled
    refine ⟨?_, fun fields deadline found => by cases found⟩
    simp [LeftUnlimited, unstopped, settled]
  | limited settled fields bound asked =>
    have unstopped := Moment.not_stopsAtLimit_of_settles settled
    refine ⟨?_, fun _ deadline found => ?_⟩
    · simp [LeftUnlimited, unstopped, settled]
    · cases found
      exact ⟨bound, List.mem_filterMap.mpr ⟨moment, List.mem_cons_self, asked⟩, Nat.le_refl _⟩
  | halfKept unsettled stopped fields =>
    have opened : LeftUnlimited who (moment :: past) ↔
        (moment.StopsAtLimit who ∧ moment.before.shelf.session? who = none) ∨
          (LeftUnlimited who past ∧ ¬ moment.Settles who) := Iff.rfl
    cases before : moment.before.shelf.session? who with
    | none =>
      -- The session is new, so there is no deadline that it could keep.
      refine ⟨?_, fun _ deadline found => ?_⟩
      · simp [opened, before, stopped]
      · cases found
    | some entry =>
      rw [before] at recorded
      refine ⟨?_, fun _ deadline found => ?_⟩
      · rw [opened, before, recorded.unlimited]
        cases entry with
        | mk old deadline => simp [unsettled]
      · cases entry with
        | mk old limit =>
          simp only [Option.bind_some, Option.some.injEq, Entry.mk.injEq] at found
          obtain ⟨-, rfl⟩ := found
          obtain ⟨bound, asked, below⟩ := recorded.limited old deadline rfl
          exact ⟨bound, bounds_subset_cons asked moment, below⟩

/-- What is known of the session of an identity is known all along a chronicle. -/
theorem Chronicle.recorded {bindingLife : Option Lifetime} {past : List Moment}
    {registrar : Registrar Memory} (chronicle : Chronicle bindingLife past registrar)
    (who : Identity) : Recorded who past (registrar.shelf.session? who) := by
  -- The induction is on the chronicle, and each of its moments is one fate.
  induction chronicle with
  | start =>
    have nothing : (Registrar.new Memory.empty bindingLife).shelf.session? who = none := by
      simp [Registrar.shelf, Registrar.new, Punctual.session?, Memory.punctual,
        Memory.getElem?_live, Memory.empty]
    constructor
    · simp [LeftUnlimited, nothing]
    · simp [nothing]
  | @step past before after incident _ undergone ih =>
    exact Recorded.step ⟨before, incident⟩ ih (fate who undergone)

/-- The deadline of a session that is live has not come. -/
theorem Registrar.now_lt_deadline {registrar : Registrar Memory} {who : Identity} {entry : Entry}
    {deadline : Instant} (found : registrar.shelf.session? who = some entry)
    (limited : entry.deadline = some deadline) : registrar.cache.now < deadline := by
  -- A live entry has not lapsed, which its deadline would have brought about.
  have alive := Memory.hasLapsed_of_live found
  simp only [Entry.hasLapsed, limited, Option.any_some, decide_eq_false_iff_not] at alive
  exact Nat.not_le.mp alive

/-- Access of an identity is bounded in time exactly if no new session of it has been left without a
deadline since its last session was settled. -/
theorem timeBounded_iff {bindingLife : Option Lifetime} {past : List Moment}
    {registrar : Registrar Memory} (chronicle : Chronicle bindingLife past registrar)
    (who : Identity) : TimeBounded who past registrar ↔ ¬ LeftUnlimited who past := by
  have recorded := chronicle.recorded who
  constructor
  -- A session without a deadline is bounded by nothing.
  · intro bounded unlimited
    obtain ⟨fields, found⟩ := recorded.unlimited.mp unlimited
    obtain ⟨deadline, limited, -⟩ := bounded.session _ found
    cases limited
  · intro settled
    have session : ∀ entry, registrar.shelf.session? who = some entry →
        ∃ deadline, entry.deadline = some deadline ∧
          ∃ bound ∈ bounds who past, deadline ≤ bound := by
      intro entry found
      obtain ⟨fields, limit⟩ := entry
      cases limit with
      | none => exact absurd (recorded.unlimited.mpr ⟨fields, found⟩) settled
      | some deadline => exact ⟨deadline, rfl, recorded.limited fields deadline found⟩
    -- Whoever gets in has a session, and the bound of its deadline has not come.
    have ahead : ∀ entry, registrar.shelf.session? who = some entry →
        ∃ bound ∈ bounds who past, registrar.cache.now < bound := by
      intro entry found
      obtain ⟨deadline, limited, bound, asked, below⟩ := session entry found
      exact ⟨bound, asked, Nat.lt_of_lt_of_le (Registrar.now_lt_deadline found limited) below⟩
    refine ⟨session, fun bearer accepted => ?_, fun apiToken accepted => ?_⟩
    · obtain ⟨entry, found⟩ := Registrar.session?_of_checkBearer accepted
      exact ahead entry found
    · obtain ⟨entry, found⟩ := Registrar.session?_of_resolve accepted
      exact ahead entry found

/-- The condition applies after the first creation of a registrar, which could not limit its
session. -/
theorem timeBounded_iff_unlimited :
    ∃ past registrar, Chronicle none past registrar ∧
      past.length = 2 ∧
      (TimeBounded ⟨7, 42⟩ past registrar ↔ ¬ LeftUnlimited ⟨7, 42⟩ past) := by
  have chronicle := Chronicle.step (.step (.start : Chronicle none _ _)
    (rfl : Registrar.undergo? _ (.fail .expire) = some _))
    (rfl : Registrar.undergo? _
      (.event (.serve (.create ⟨7, 42⟩ "jwt" "" (.ofSeconds 3600)))) = some _)
  exact ⟨_, _, chronicle, rfl, timeBounded_iff chronicle ⟨7, 42⟩⟩

/-- Two hours after a session of one hour was opened that could not be limited, its bearer token
still gets in. -/
theorem exists_unbounded :
    ∃ past registrar, Chronicle none past registrar ∧
      bounds ⟨7, 42⟩ past = [(Lifetime.ofSeconds 3600).overAt Instant.setUp] ∧
      registrar.cache.now = (Lifetime.ofSeconds 7200).overAt Instant.setUp ∧
      (registrar.serve (.checkBearer ⟨7, 42⟩ "jwt")).1 = .ok () :=
  ⟨_, _, .step (.step (.step (.step .start
    (rfl : Registrar.undergo? _ (.fail .expire) = some _))
    (rfl : Registrar.undergo? _
      (.event (.serve (.create ⟨7, 42⟩ "jwt" "" (.ofSeconds 3600)))) = some _))
    (rfl : Registrar.undergo? _ .heal = some _))
    (Registrar.undergo?_pass (.ofSeconds 7200) (by decide)), rfl, rfl, rfl⟩

end TenantSessions
