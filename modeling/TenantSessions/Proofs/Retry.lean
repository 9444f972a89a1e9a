import TenantSessions.Proofs.Provenance

/-!
A creation can be tried again. What an attempt has written before it failed is written anew, with
the same fields and the deadline of the later attempt; so a creation that succeeds in the end leaves
what it would have left if it had never been tried before, and one that has succeeded changes
nothing when it is repeated.
-/

namespace TenantSessions

namespace Punctual

/-- Whether a creation makes the same of two caches: they agree on what it leaves alone, and what it
places comes out the same in both. -/
structure Interchangeable (who : Identity) (bearer apiToken : String) (bindingLife life : Lifetime)
    (shelf other : Punctual) : Prop where
  failing : other.failing = shelf.failing
  now : other.now = shelf.now
  frame : ∀ key, key ≠ Key.session who → (apiToken ≠ "" → key ≠ Key.apiToken apiToken) →
    other.entries[key]? = shelf.entries[key]?
  binding : ∀ deadline, apiToken ≠ "" →
    placed? (other.binding? apiToken) who.fields bindingLife deadline =
      placed? (shelf.binding? apiToken) who.fields bindingLife deadline
  session : ∀ deadline,
    placed? (other.session? who) (Grant.ofTokens who bearer apiToken).fields life deadline =
      placed? (shelf.session? who) (Grant.ofTokens who bearer apiToken).fields life deadline

variable {shelf other left leftOther : Punctual} {who : Identity} {bearer apiToken : String}
  {bindingLife life : Lifetime} {answer answerOther : Except Failure Unit}

/-- A creation over one of two interchangeable caches is answered well exactly if it is over the
other. -/
theorem Interchangeable.answer_iff
    (same : Interchangeable who bearer apiToken bindingLife life shelf other)
    (ended : Creation shelf who bearer apiToken bindingLife life answer left)
    (endedOther : Creation other who bearer apiToken bindingLife life answerOther leftOther) :
    answerOther = .ok () ↔ answer = .ok () := by
  -- Only what fails and the time decide, once the creation is not refused.
  have limits (length : Lifetime) : other.limitFault? length = shelf.limitFault? length := by
    rw [limitFault?, limitFault?, same.failing, same.now]
  rw [endedOther.eq_ok_iff, ended.eq_ok_iff, same.failing, limits, limits]

/-- A creation that is answered well leaves the same keys, fields and deadlines of two
interchangeable caches. -/
theorem Interchangeable.entries_eq
    (same : Interchangeable who bearer apiToken bindingLife life shelf other)
    (ended : Creation shelf who bearer apiToken bindingLife life (.ok ()) left)
    (endedOther : Creation other who bearer apiToken bindingLife life (.ok ()) leftOther) :
    leftOther.entries = left.entries := by
  have session : leftOther.session? who = left.session? who := by
    rw [ended.left_eq, endedOther.left_eq, session?_place_session, session?_place_session,
      if_pos rfl, if_pos rfl, session?_bound, session?_bound, bound_now, bound_now, same.now]
    exact same.session _
  have binding (token : apiToken ≠ "") :
      leftOther.binding? apiToken = left.binding? apiToken := by
    rw [ended.left_eq, endedOther.left_eq, binding?_place_session, binding?_place_session,
      binding?_bound, binding?_bound, if_pos ⟨token, rfl⟩, if_pos ⟨token, rfl⟩, same.now]
    exact same.binding _ token
  apply Std.ExtTreeMap.ext_getElem?
  intro key
  -- A key is that of the session, that of the binding, or none of these two.
  by_cases kept : key = Key.session who
  · rw [kept]
    exact session
  by_cases bound : apiToken ≠ "" ∧ key = Key.apiToken apiToken
  · rw [bound.2]
    exact binding bound.1
  have unbound : apiToken ≠ "" → key ≠ Key.apiToken apiToken := fun token named =>
    bound ⟨token, named⟩
  rw [ended.frame kept unbound, endedOther.frame kept unbound]
  exact same.frame key kept unbound

/-- What a creation leaves that is answered well can stand in for what it found. -/
theorem interchangeable_create
    (ended : Creation shelf who bearer apiToken bindingLife life (.ok ()) left) :
    Interchangeable who bearer apiToken bindingLife life shelf left where
  failing := ended.failing
  now := ended.now
  frame _ unkept unbound := ended.frame unkept unbound
  binding deadline token := by
    -- What has been placed once comes out the same when it is placed over itself.
    rw [ended.left_eq, binding?_place_session, binding?_bound, if_pos ⟨token, rfl⟩]
    exact placed?_placed? ..
  session deadline := by
    rw [ended.left_eq, session?_place_session, if_pos rfl, session?_bound]
    exact placed?_placed? ..

/-- A session that is written and one that is not lapse together, and until then the one is what the
other is written to. A session that was not there before does not lapse. -/
theorem filter_written (row? : Option Entry) (pairs : List (String × String)) (later : Instant) :
    (some (written row? pairs)).filter (fun entry => !entry.hasLapsed later) =
        row?.filter (fun entry => !entry.hasLapsed later) ∨
      (some (written row? pairs)).filter (fun entry => !entry.hasLapsed later) =
        some (written (row?.filter fun entry => !entry.hasLapsed later) pairs) := by
  cases row? with
  | none => exact .inr rfl
  | some entry =>
    -- Writing does not touch the deadline, which alone decides.
    have deadline : (written (some entry) pairs).hasLapsed later = entry.hasLapsed later := rfl
    by_cases lapsed : entry.hasLapsed later
    · simp [Option.filter, deadline, lapsed]
    · simp [Option.filter, deadline, lapsed]

end Punctual

/-- Whether an incident asks nothing of a registrar. -/
def Incident.Idle : Incident → Prop
  | .fail _ => True
  | .heal => True
  | .event (.pass _) => True
  | _ => False

/-- What an attempt at a creation has left that failed, next to a registrar where it was not made:
besides the binding, only the session can differ, by the fields that were written to it. -/
structure Attempted (who : Identity) (bearer apiToken : String)
    (spared tried : Registrar Memory) : Prop where
  bindingLife : tried.bindingLife = spared.bindingLife
  failing : tried.shelf.failing = spared.shelf.failing
  now : tried.shelf.now = spared.shelf.now
  frame : ∀ key, key ≠ Key.session who → (apiToken ≠ "" → key ≠ Key.apiToken apiToken) →
    tried.shelf.entries[key]? = spared.shelf.entries[key]?
  session : tried.shelf.session? who = spared.shelf.session? who ∨
    tried.shelf.session? who =
      some (Punctual.written (spared.shelf.session? who)
        (Grant.ofTokens who bearer apiToken).fields)

namespace Attempted

variable {who : Identity} {bearer apiToken : String} {spared tried after : Registrar Memory}

/-- A creation that fails leaves nothing else. -/
theorem create {registrar : Registrar Memory} {life : Lifetime} {failure : Failure}
    (failed : (registrar.serve (.create who bearer apiToken life)).1 = .error failure) :
    Attempted who bearer apiToken registrar
      (registrar.serve (.create who bearer apiToken life)).2 := by
  have ended := registrar.creation who bearer apiToken life
  refine ⟨rfl, ended.failing, ended.now, fun key => ended.frame, ?_⟩
  rw [failed] at ended
  generalize (registrar.serve (.create who bearer apiToken life)).2.shelf = left at ended
  -- Of the ends that are failures, only the last has written the session.
  cases ended with
  | refused => exact .inl rfl
  | unwritten => exact .inl rfl
  | halfBound => exact .inl (Punctual.session?_write_binding ..)
  | halfKept =>
    refine .inr ?_
    rw [Punctual.session?_write_session, if_pos rfl, Punctual.session?_bound]

/-- The difference stays the same when time passes, or goes away. -/
theorem pass {span : Lifetime} (attempted : Attempted who bearer apiToken spared tried)
    (passed : tried.undergo? (.event (.pass span)) = some after) :
    ∃ fresh, spared.undergo? (.event (.pass span)) = some fresh ∧
      Attempted who bearer apiToken fresh after := by
  -- Both clocks show the same instant, so the one goes on if the other does.
  have now : tried.cache.now = spared.cache.now := attempted.now
  have named := Registrar.named_of_pass passed
  rw [now] at named
  have passedSpared := Registrar.undergo?_pass span named
  have left := Registrar.shelf_of_pass passed
  have leftSpared := Registrar.shelf_of_pass passedSpared
  rw [attempted.now] at left
  obtain ⟨cache, -, rfl⟩ := Option.map_eq_some_iff.mp passed
  refine ⟨_, passedSpared, attempted.bindingLife, ?_, ?_, fun key unkept unbound => ?_, ?_⟩
  · rw [left, leftSpared]
    exact attempted.failing
  · rw [left, leftSpared]
    rfl
  · rw [left, leftSpared, Punctual.getElem?_reach, Punctual.getElem?_reach,
      attempted.frame key unkept unbound]
  · rw [left, leftSpared, Punctual.session?_reach, Punctual.session?_reach]
    -- What was written has kept its deadline, so both sessions lapse together.
    rcases attempted.session with same | written
    · exact .inl (by rw [same])
    · rw [written]
      exact Punctual.filter_written ..

/-- The difference stays the same in an idle incident, or goes away. -/
theorem undergo? {incident : Incident} (attempted : Attempted who bearer apiToken spared tried)
    (idle : incident.Idle) (undergone : tried.undergo? incident = some after) :
    ∃ fresh, spared.undergo? incident = some fresh ∧
      Attempted who bearer apiToken fresh after := by
  cases incident with
  | fail kind =>
    cases undergone
    exact ⟨_, rfl, { attempted with failing := congrArg (kind :: ·) attempted.failing }⟩
  | heal =>
    cases undergone
    exact ⟨_, rfl, { attempted with failing := rfl }⟩
  | event event =>
    cases event with
    | pass span => exact attempted.pass undergone
    | serve => exact absurd idle not_false
    | reopen => exact absurd idle not_false

/-- The difference stays the same in idle incidents in a row, or goes away. -/
theorem undergoAll? {script : List Incident}
    (attempted : Attempted who bearer apiToken spared tried)
    (idle : ∀ incident ∈ script, incident.Idle)
    (undergone : tried.undergoAll? script = some after) :
    ∃ fresh, spared.undergoAll? script = some fresh ∧
      Attempted who bearer apiToken fresh after := by
  -- The induction is on the script, and both registrars take each incident together.
  induction script generalizing spared tried with
  | nil =>
    cases undergone
    exact ⟨spared, rfl, attempted⟩
  | cons incident script ih =>
    obtain ⟨next, first, rest⟩ := Option.bind_eq_some_iff.mp undergone
    obtain ⟨nextSpared, firstSpared, still⟩ :=
      attempted.undergo? (idle incident List.mem_cons_self) first
    obtain ⟨fresh, restSpared, final⟩ :=
      ih still (fun other member => idle other (List.mem_cons_of_mem _ member)) rest
    exact ⟨fresh, Option.bind_eq_some_iff.mpr ⟨nextSpared, firstSpared, restSpared⟩, final⟩

/-- A creation makes the same of what an attempt has left as of what would be there without it,
since all that a chronicle leaves in a binding are fields that name an identity. -/
theorem interchangeable {bindingLife : Option Lifetime} {pastSpared past : List Moment}
    (attempted : Attempted who bearer apiToken spared tried)
    (chronicleSpared : Chronicle bindingLife pastSpared spared)
    (chronicle : Chronicle bindingLife past tried) (life : Lifetime) :
    Punctual.Interchangeable who bearer apiToken spared.bindingLife life spared.shelf
      tried.shelf where
  failing := attempted.failing
  now := attempted.now
  frame := attempted.frame
  binding deadline _ := by
    -- Whatever the bindings are, they are overwritten in full.
    rw [chronicle.traced.placed?_binding, chronicleSpared.traced.placed?_binding]
  session deadline := by
    -- The fields that the attempt has written are written again, and the deadline is a new one.
    rcases attempted.session with same | written
    · rw [same]
    · rw [written, Punctual.placed?_written]

end Attempted

namespace Registrar

/-- A creation is answered well by one of two registrars exactly if it is by the other, where it
makes the same of their caches; and then it leaves the same behind. -/
theorem create_of_interchangeable {first second : Registrar Memory} {who : Identity}
    {bearer apiToken : String} {life : Lifetime}
    (same : Punctual.Interchangeable who bearer apiToken first.bindingLife life first.shelf
      second.shelf)
    (bindingLife : second.bindingLife = first.bindingLife) :
    ((second.serve (.create who bearer apiToken life)).1 = .ok () ↔
        (first.serve (.create who bearer apiToken life)).1 = .ok ()) ∧
      ((second.serve (.create who bearer apiToken life)).1 = .ok () →
        (second.serve (.create who bearer apiToken life)).2.cache.live =
          (first.serve (.create who bearer apiToken life)).2.cache.live) := by
  have ended := first.creation who bearer apiToken life
  have endedSecond := second.creation who bearer apiToken life
  rw [bindingLife] at endedSecond
  have answers := same.answer_iff ended endedSecond
  refine ⟨answers, fun done => ?_⟩
  -- Both have come to their end, so both caches have everything in place.
  rw [answers.mp done] at ended
  rw [done] at endedSecond
  exact same.entries_eq ended endedSecond

/-- A creation that has failed leaves no trace once it succeeds. However long one waits after the
attempt, and whatever fails meanwhile, when the same creation is answered well it leaves the same
keys live, with the same fields and deadlines, as if it had never been tried before. A creation that
has been answered well is answered well again when it is repeated at once, and changes nothing. -/
theorem retry_converges {bindingLife : Option Lifetime} {past : List Moment}
    {registrar : Registrar Memory} (chronicle : Chronicle bindingLife past registrar)
    (who : Identity) (bearer apiToken : String) (life : Lifetime) :
    (∀ failure script tried,
      (registrar.serve (.create who bearer apiToken life)).1 = .error failure →
      (∀ incident ∈ script, incident.Idle) →
      (registrar.serve (.create who bearer apiToken life)).2.undergoAll? script = some tried →
      (tried.serve (.create who bearer apiToken life)).1 = .ok () →
      ∃ spared, registrar.undergoAll? script = some spared ∧
        (spared.serve (.create who bearer apiToken life)).1 = .ok () ∧
        (tried.serve (.create who bearer apiToken life)).2.cache.live =
          (spared.serve (.create who bearer apiToken life)).2.cache.live) ∧
    ((registrar.serve (.create who bearer apiToken life)).1 = .ok () →
      ((registrar.serve (.create who bearer apiToken life)).2.serve
          (.create who bearer apiToken life)).1 = .ok () ∧
        ((registrar.serve (.create who bearer apiToken life)).2.serve
            (.create who bearer apiToken life)).2.cache.live =
          (registrar.serve (.create who bearer apiToken life)).2.cache.live) := by
  constructor
  · intro failure script tried failed idle waited done
    obtain ⟨spared, waitedSpared, attempted⟩ :=
      (Attempted.create failed).undergoAll? idle waited
    -- With and without the attempt there is a chronicle, so no binding has fields of another kind.
    have attempt : registrar.undergo? (.event (.serve (.create who bearer apiToken life))) =
        some (registrar.serve (.create who bearer apiToken life)).2 := rfl
    obtain ⟨_, chronicleTried⟩ := (chronicle.step attempt).undergoAll? waited
    obtain ⟨_, chronicleSpared⟩ := chronicle.undergoAll? waitedSpared
    have same := attempted.interchangeable chronicleSpared chronicleTried life
    obtain ⟨answers, left⟩ := create_of_interchangeable same attempted.bindingLife
    exact ⟨spared, waitedSpared, answers.mp done, left done⟩
  · intro done
    have ended := registrar.creation who bearer apiToken life
    rw [done] at ended
    have same := Punctual.interchangeable_create ended
    obtain ⟨answers, left⟩ := create_of_interchangeable same rfl
    exact ⟨answers.mpr done, left (answers.mpr done)⟩

/-- A first creation fails at the limit of its session, which stays behind without a deadline and
lets its token in two hours later still. The creation that then succeeds leaves what it would have
left if it were the first one. -/
theorem retry_converges_late :
    ∃ past registrar tried spared, Chronicle none past registrar ∧
      (registrar.serve (.create ⟨7, 42⟩ "jwt" "" (.ofSeconds 3600))).1 =
        .error (.cache (.limitingSession ⟨7, 42⟩) (.injected .expire)) ∧
      (registrar.serve (.create ⟨7, 42⟩ "jwt" "" (.ofSeconds 3600))).2.undergoAll?
        [.heal, .event (.pass (.ofSeconds 7200))] = some tried ∧
      registrar.undergoAll? [.heal, .event (.pass (.ofSeconds 7200))] = some spared ∧
      (tried.serve (.checkBearer ⟨7, 42⟩ "jwt")).1 = .ok () ∧
      (spared.serve (.checkBearer ⟨7, 42⟩ "jwt")).1 = .error .invalidSession ∧
      (tried.serve (.create ⟨7, 42⟩ "jwt" "" (.ofSeconds 3600))).1 = .ok () ∧
      (tried.serve (.create ⟨7, 42⟩ "jwt" "" (.ofSeconds 3600))).2.cache.live =
        (spared.serve (.create ⟨7, 42⟩ "jwt" "" (.ofSeconds 3600))).2.cache.live := by
  have chronicle := Chronicle.step (.start : Chronicle none _ _)
    (rfl : Registrar.undergo? _ (.fail .expire) = some _)
  have idle : ∀ incident ∈ [Incident.heal, .event (.pass (.ofSeconds 7200))], incident.Idle := by
    simp [Incident.Idle]
  obtain ⟨spared, waited, -, same⟩ :=
    (retry_converges chronicle ⟨7, 42⟩ "jwt" "" (.ofSeconds 3600)).1 _ _ _ rfl idle rfl rfl
  cases waited
  exact ⟨_, _, _, _, chronicle, rfl, rfl, rfl, rfl, rfl, rfl, same⟩

end Registrar

end TenantSessions
