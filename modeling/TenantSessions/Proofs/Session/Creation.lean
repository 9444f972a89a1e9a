import TenantSessions.Registrar
import TenantSessions.Proofs.Cache.Punctual
import TenantSessions.Proofs.Key
import TenantSessions.Proofs.Record

/-!
What each operation on sessions answers and leaves, told on a punctual cache: a creation in the
ways in which it can end, a check as the verdict that it reads off, a revocation as the keys that it
takes away.
-/

namespace TenantSessions

namespace Session

/-- Why a creation is refused before its first write, if it is: the org, the user, the tokens, the
lifetime of a binding that would be made, and that of the session are looked at in this order. -/
def refusal? (who : Identity) (bearer apiToken : String) (bindingLife life : Lifetime) :
    Option Failure :=
  if who.org = 0 then some .missingOrg
  else if who.user = 0 then some .missingUser
  else if bearer = "" ∧ apiToken = "" then some .missingCredential
  else if apiToken ≠ "" ∧ Lifetime.maxMillis < bindingLife.millis then
    some (.cache (.limitingBinding who) (.lifetimeTooLong bindingLife))
  else if Lifetime.maxMillis < life.millis then
    some (.cache (.limitingSession who) (.lifetimeTooLong life))
  else none

/-- The lifetimes that a creation sets are not too long if it is not refused. -/
theorem short_of_accepted {who : Identity} {bearer apiToken : String} {bindingLife life : Lifetime}
    (accepted : refusal? who bearer apiToken bindingLife life = none) :
    (apiToken ≠ "" → ¬ Lifetime.maxMillis < bindingLife.millis) ∧
      ¬ Lifetime.maxMillis < life.millis := by
  -- Both lifetimes are among what is looked at.
  grind [refusal?]

/-- The identity is named in full if a creation is not refused. -/
theorem named_of_accepted {who : Identity} {bearer apiToken : String} {bindingLife life : Lifetime}
    (accepted : refusal? who bearer apiToken bindingLife life = none) :
    who.org ≠ 0 ∧ who.user ≠ 0 := by
  grind [refusal?]

/-- There is a token if a creation is not refused. -/
theorem presented_of_accepted {who : Identity} {bearer apiToken : String}
    {bindingLife life : Lifetime}
    (accepted : refusal? who bearer apiToken bindingLife life = none) :
    ¬ (bearer = "" ∧ apiToken = "") := by
  grind [refusal?]

/-- A creation that is refused for the lifetime of its session has one that is too long. -/
theorem tooLong_of_refusal {who other : Identity} {bearer apiToken : String}
    {bindingLife life : Lifetime} {fault : Fault}
    (refusal : refusal? who bearer apiToken bindingLife life =
      some (.cache (.limitingSession other) fault)) : fault = .lifetimeTooLong life := by
  grind [refusal?]

/-- The writes of a creation that is not refused. -/
def writes (who : Identity) (bearer apiToken : String) (bindingLife life : Lifetime) :
    Dialogue Unit :=
  if apiToken = "" then keep (.ofTokens who bearer apiToken) life
  else do
    bind who apiToken bindingLife
    keep (.ofTokens who bearer apiToken) life

/-- A lifetime is refused exactly if it is too long. -/
theorem requireExpiry_eq (life : Lifetime) (stage : Stage) :
    requireExpiry life stage =
      if Lifetime.maxMillis < life.millis then .error (.cache stage (.lifetimeTooLong life))
      else .ok () := by
  -- Only the length of a lifetime decides whether it has an expiry.
  unfold requireExpiry
  by_cases long : Lifetime.maxMillis < life.millis
  · rw [life.expiry_of_long long, if_pos long]
  · rw [life.expiry_of_short (Nat.not_lt.mp long), if_neg long]

/-- A creation is its refusal, or its writes. -/
theorem create_eq (who : Identity) (bearer apiToken : String) (bindingLife life : Lifetime) :
    create who bearer apiToken bindingLife life =
      match refusal? who bearer apiToken bindingLife life with
      | some failure => .fail failure
      | none => writes who bearer apiToken bindingLife life := by
  -- What is computed without the cache is no part of the dialogue.
  have refused {failure : Failure} {follow : Unit → Dialogue Unit} :
      Dialogue.ofExcept (.error failure) >>= follow = .fail failure := rfl
  have granted {follow : Unit → Dialogue Unit} :
      Dialogue.ofExcept (.ok ()) >>= follow = follow () := rfl
  -- The refusals are looked at in the order in which the creation makes them.
  by_cases org : who.org = 0
  · simp [create, refusal?, require, org, refused]
  by_cases user : who.user = 0
  · simp [create, refusal?, require, org, user, refused]
  by_cases missing : bearer = "" ∧ apiToken = ""
  · simp [create, refusal?, require, org, user, missing, refused]
  have required : require who bearer apiToken = .ok () := by
    rw [require, if_neg org, if_neg user, if_neg missing]
  -- What is left to refuse are the lifetimes, that of the binding only if there is a token.
  rw [create, refusal?, if_neg org, if_neg user, if_neg missing, required, requireExpiry_eq,
    requireExpiry_eq]
  by_cases token : apiToken = ""
  · by_cases long : Lifetime.maxMillis < life.millis
    · simp [token, long, refused, granted]
    · simp [writes, token, long, granted]
  · by_cases bindingLong : Lifetime.maxMillis < bindingLife.millis
    · simp [token, bindingLong, refused, granted]
    · by_cases long : Lifetime.maxMillis < life.millis
      · simp [token, bindingLong, long, refused, granted]
      · simp [writes, token, bindingLong, long, granted]

/-- A creation ends with its refusal, or goes on to its writes. -/
theorem hold_create {σ : Type} [Cache σ] (who : Identity) (bearer apiToken : String)
    (bindingLife life : Lifetime) (state : σ) :
    (create who bearer apiToken bindingLife life).hold state =
      match refusal? who bearer apiToken bindingLife life with
      | some failure => (.error failure, state)
      | none => (writes who bearer apiToken bindingLife life).hold state := by
  rw [create_eq]
  cases refusal? who bearer apiToken bindingLife life with
  | some failure => rfl
  | none => rfl

end Session

namespace Punctual

/-- Why a key would not be limited to a lifetime now, if it would not. -/
def limitFault? (shelf : Punctual) (life : Lifetime) : Option Fault :=
  if .expire ∈ shelf.failing then some (.injected .expire)
  else if Lifetime.maxMillis < life.millis then some (.lifetimeTooLong life)
  else if Instant.horizon < life.overAt shelf.now then some (.deadlineTooLate life)
  else none

/-- Writes fields over those that a key has, and limits the key to a lifetime. -/
def place (shelf : Punctual) (key : String) (pairs : List (String × String)) (life : Lifetime) :
    Punctual :=
  (shelf.write key pairs).setDeadline key (life.overAt shelf.now)

@[simp] theorem place_failing (shelf : Punctual) (key : String) (pairs : List (String × String))
    (life : Lifetime) : (shelf.place key pairs life).failing = shelf.failing := by
  simp [place]

@[simp] theorem place_now (shelf : Punctual) (key : String) (pairs : List (String × String))
    (life : Lifetime) : (shelf.place key pairs life).now = shelf.now := by
  simp [place]

@[simp] theorem limitFault?_place (shelf : Punctual) (key : String)
    (pairs : List (String × String)) (placed life : Lifetime) :
    (shelf.place key pairs placed).limitFault? life = shelf.limitFault? life := by
  rw [limitFault?, limitFault?, place_failing, place_now]

/-- Placing a key leaves every other key as it is; a lifetime that is over at once takes the key
away. -/
theorem getElem?_place (shelf : Punctual) (key other : String) (pairs : List (String × String))
    (life : Lifetime) :
    (shelf.place key pairs life).entries[other]? =
      if key = other then
        if life.millis = 0 then none
        else some {
          fields := (shelf.entries[key]?.getD .blank).fields.write pairs
          deadline := some (life.overAt shelf.now) }
      else shelf.entries[other]? := by
  -- The deadline is set on what has just been written, so the key is certainly there.
  simp only [place, getElem?_setDeadline, getElem?_write, write_now, Lifetime.overAt_le]
  by_cases same : key = other
  · simp [same]
  · simp [same]

/-- A write answers at once, unless writes are made to fail. -/
theorem hold_write (shelf : Punctual) (key : String) (pairs : List (String × String))
    (stage : Stage) :
    (Dialogue.put (.write key pairs) stage).hold shelf =
      if .write ∈ shelf.failing then (.error (.cache stage (.injected .write)), shelf)
      else (.ok (), shelf.write key pairs) := by
  -- There is nothing in a write itself that could go wrong.
  by_cases outage : Command.Kind.write ∈ shelf.failing
  · rw [if_pos outage]
    exact hold_put_of_failing outage stage
  · rw [if_neg outage]
    exact hold_put_of_ok outage rfl stage

/-- A key is limited, unless there is a fault. -/
theorem hold_expire (shelf : Punctual) (key : String) (life : Lifetime) (stage : Stage) :
    (Dialogue.put (.expire key life) stage).hold shelf =
      match shelf.limitFault? life with
      | some fault => (.error (.cache stage fault), shelf)
      | none => (.ok (), shelf.setDeadline key (life.overAt shelf.now)) := by
  rw [limitFault?]
  by_cases outage : Command.Kind.expire ∈ shelf.failing
  · rw [if_pos outage]
    exact hold_put_of_failing outage stage
  rw [if_neg outage]
  -- The faults are looked for in one order, which both sides follow.
  by_cases long : Lifetime.maxMillis < life.millis
  · have failed : shelf.perform (.expire key life) = (.error (.lifetimeTooLong life), shelf) :=
      if_pos long
    rw [if_pos long]
    exact hold_put_of_error outage failed stage
  rw [if_neg long]
  by_cases late : Instant.horizon < life.overAt shelf.now
  · have failed : shelf.perform (.expire key life) = (.error (.deadlineTooLate life), shelf) :=
      (if_neg long).trans (if_pos late)
    rw [if_pos late]
    exact hold_put_of_error outage failed stage
  · have done : shelf.perform (.expire key life) =
        (.ok (), shelf.setDeadline key (life.overAt shelf.now)) :=
      (if_neg long).trans (if_neg late)
    rw [if_neg late]
    exact hold_put_of_ok outage done stage

/-- Writing a key and then limiting it stops at the write, or at the limit with the key written, or
places the key. -/
theorem hold_place (shelf : Punctual) (key : String) (pairs : List (String × String))
    (life : Lifetime) (writing limiting : Stage) :
    (Dialogue.put (.write key pairs) writing >>= fun _ =>
        Dialogue.put (.expire key life) limiting : Dialogue Unit).hold shelf =
      if .write ∈ shelf.failing then (.error (.cache writing (.injected .write)), shelf)
      else
        match shelf.limitFault? life with
        | some fault => (.error (.cache limiting fault), shelf.write key pairs)
        | none => (.ok (), shelf.place key pairs life) := by
  rw [Dialogue.hold_bind, hold_write]
  -- A write that fails leaves nothing to limit.
  by_cases outage : Command.Kind.write ∈ shelf.failing
  · simp only [if_pos outage]
  · simp only [if_neg outage]
    exact hold_expire (shelf.write key pairs) key life limiting

/-- The cache after an API token has been bound to an identity, or as it was where there is no token
to bind. -/
def bound (shelf : Punctual) (who : Identity) (apiToken : String) (life : Lifetime) : Punctual :=
  if apiToken = "" then shelf else shelf.place (Key.apiToken apiToken) who.fields life

@[simp] theorem bound_failing (shelf : Punctual) (who : Identity) (apiToken : String)
    (life : Lifetime) : (shelf.bound who apiToken life).failing = shelf.failing := by
  unfold bound
  split
  · rfl
  · exact place_failing ..

@[simp] theorem bound_now (shelf : Punctual) (who : Identity) (apiToken : String)
    (life : Lifetime) : (shelf.bound who apiToken life).now = shelf.now := by
  unfold bound
  split
  · rfl
  · exact place_now ..

/-- Binding a token leaves every key as it is but that of the binding. -/
theorem getElem?_bound {key apiToken : String}
    (unbound : apiToken ≠ "" → key ≠ Key.apiToken apiToken) (shelf : Punctual) (who : Identity)
    (life : Lifetime) :
    (shelf.bound who apiToken life).entries[key]? = shelf.entries[key]? := by
  unfold bound
  by_cases token : apiToken = ""
  · rw [if_pos token]
  · rw [if_neg token, getElem?_place, if_neg (unbound token).symm]

@[simp] theorem limitFault?_bound (shelf : Punctual) (who : Identity) (apiToken : String)
    (bindingLife life : Lifetime) :
    (shelf.bound who apiToken bindingLife).limitFault? life = shelf.limitFault? life := by
  unfold bound
  split
  · rfl
  · exact limitFault?_place ..

end Punctual

/-- The ways in which a creation ends: what it answers, and what it leaves of the cache. -/
inductive Creation (shelf : Punctual) (who : Identity) (bearer apiToken : String)
    (bindingLife life : Lifetime) : Except Failure Unit → Punctual → Prop where
  /-- It is refused, and nothing is written. -/
  | refused (failure : Failure)
      (refusal : Session.refusal? who bearer apiToken bindingLife life = some failure) :
      Creation shelf who bearer apiToken bindingLife life (.error failure) shelf
  /-- The first write fails, and nothing is written. -/
  | unwritten (accepted : Session.refusal? who bearer apiToken bindingLife life = none)
      (outage : .write ∈ shelf.failing) (stage : Stage)
      (first : stage = if apiToken = "" then .writingSession who else .writingBinding who) :
      Creation shelf who bearer apiToken bindingLife life
        (.error (.cache stage (.injected .write))) shelf
  /-- The binding is written but not limited, and there is no word of a session. -/
  | halfBound (accepted : Session.refusal? who bearer apiToken bindingLife life = none)
      (token : apiToken ≠ "") (fault : Fault) (found : shelf.limitFault? bindingLife = some fault)
      (writable : .write ∉ shelf.failing) :
      Creation shelf who bearer apiToken bindingLife life
        (.error (.cache (.limitingBinding who) fault))
        (shelf.write (Key.apiToken apiToken) who.fields)
  /-- The binding is complete, and the session is written but not limited. -/
  | halfKept (accepted : Session.refusal? who bearer apiToken bindingLife life = none)
      (limited : apiToken ≠ "" → shelf.limitFault? bindingLife = none)
      (fault : Fault) (found : shelf.limitFault? life = some fault)
      (writable : .write ∉ shelf.failing) :
      Creation shelf who bearer apiToken bindingLife life
        (.error (.cache (.limitingSession who) fault))
        ((shelf.bound who apiToken bindingLife).write (Key.session who)
          (Grant.ofTokens who bearer apiToken).fields)
  /-- The binding and the session are complete. -/
  | complete (accepted : Session.refusal? who bearer apiToken bindingLife life = none)
      (limited : apiToken ≠ "" → shelf.limitFault? bindingLife = none)
      (kept : shelf.limitFault? life = none)
      (writable : .write ∉ shelf.failing) :
      Creation shelf who bearer apiToken bindingLife life (.ok ())
        ((shelf.bound who apiToken bindingLife).place (Key.session who)
          (Grant.ofTokens who bearer apiToken).fields life)

/-- What keeps a key from being limited, where the lifetime is short enough, is that limits are made
to fail, or that the clock cannot name the deadline. -/
theorem Punctual.limitFault?_cases {shelf : Punctual} {life : Lifetime} {fault : Fault}
    (short : ¬ Lifetime.maxMillis < life.millis) (found : shelf.limitFault? life = some fault) :
    (.expire ∈ shelf.failing ∧ fault = .injected .expire) ∨
      (Instant.horizon < life.overAt shelf.now ∧ fault = .deadlineTooLate life) := by
  rw [limitFault?, if_neg short] at found
  split at found
  · rename_i outage
    cases found
    exact .inl ⟨outage, rfl⟩
  · rw [Option.ite_none_right_eq_some] at found
    obtain ⟨late, same⟩ := found
    cases same
    exact .inr ⟨late, rfl⟩

/-- What keeps a session from being limited, once it is written, is not the length of its lifetime.
-/
theorem Punctual.limitFault?_ne_tooLong {shelf : Punctual} {life : Lifetime} {fault : Fault}
    (short : ¬ Lifetime.maxMillis < life.millis) (found : shelf.limitFault? life = some fault) :
    fault ≠ .lifetimeTooLong life := by
  -- A lifetime that is short enough leaves the other two faults.
  rcases limitFault?_cases short found with ⟨-, rfl⟩ | ⟨-, rfl⟩
  · exact nofun
  · exact nofun

namespace Punctual

/-- Every creation ends in one of these ways. -/
theorem creation (shelf : Punctual) (who : Identity) (bearer apiToken : String)
    (bindingLife life : Lifetime) :
    Creation shelf who bearer apiToken bindingLife life
      ((Session.create who bearer apiToken bindingLife life).hold shelf).1
      ((Session.create who bearer apiToken bindingLife life).hold shelf).2 := by
  rw [Session.hold_create]
  cases accepted : Session.refusal? who bearer apiToken bindingLife life with
  | some failure => exact .refused failure accepted
  | none =>
    -- Binding a token and keeping a session are each a write and a limit in turn.
    have keep (state : Punctual) :
        (Session.keep (.ofTokens who bearer apiToken) life).hold state = _ :=
      hold_place state (Key.session who) (Grant.ofTokens who bearer apiToken).fields life
        (.writingSession who) (.limitingSession who)
    have bind : (Session.bind who apiToken bindingLife).hold shelf = _ :=
      hold_place shelf (Key.apiToken apiToken) who.fields bindingLife (.writingBinding who)
        (.limitingBinding who)
    by_cases outage : Command.Kind.write ∈ shelf.failing
    · -- Nothing is written, and the stage is that of whatever was to be written first.
      rw [if_pos outage] at bind
      have keep := keep shelf
      rw [if_pos outage] at keep
      by_cases token : apiToken = ""
      · simp only [Session.writes, if_pos token, keep]
        exact .unwritten accepted outage _ (if_pos token).symm
      · simp only [Session.writes, if_neg token, Dialogue.hold_bind, bind]
        exact .unwritten accepted outage _ (if_neg token).symm
    · rw [if_neg outage] at bind
      have keep := keep (shelf.bound who apiToken bindingLife)
      rw [bound_failing, if_neg outage, limitFault?_bound] at keep
      by_cases limited : apiToken ≠ "" → shelf.limitFault? bindingLife = none
      · -- The binding is complete if there is a token, so the session decides.
        have writes : (Session.writes who bearer apiToken bindingLife life).hold shelf =
            (Session.keep (.ofTokens who bearer apiToken) life).hold
              (shelf.bound who apiToken bindingLife) := by
          by_cases token : apiToken = ""
          · simp only [Session.writes, if_pos token, bound]
          · simp only [Session.writes, if_neg token, Dialogue.hold_bind, bind, limited token, bound]
        dsimp only
        rw [writes, keep]
        cases found : shelf.limitFault? life with
        | some fault => exact .halfKept accepted limited fault found outage
        | none => exact .complete accepted limited found outage
      -- There is a token, and its binding cannot be limited; the session is not even begun.
      · obtain ⟨token, unlimited⟩ := Classical.not_imp.mp limited
        obtain ⟨fault, found⟩ := Option.ne_none_iff_exists'.mp unlimited
        simp only [Session.writes, if_neg token, Dialogue.hold_bind, bind, found]
        exact .halfBound accepted token fault found outage

end Punctual

namespace Creation

variable {shelf left : Punctual} {who : Identity} {bearer apiToken : String}
  {bindingLife life : Lifetime} {answer : Except Failure Unit}

/-- A creation leaves every key as it is but the session of its identity and the binding of its API
token, if it has one. -/
theorem frame (ended : Creation shelf who bearer apiToken bindingLife life answer left)
    {key : String} (unkept : key ≠ Key.session who)
    (unbound : apiToken ≠ "" → key ≠ Key.apiToken apiToken) :
    left.entries[key]? = shelf.entries[key]? := by
  -- Whatever it writes, limits or lets lapse has one of these two names.
  cases ended with
  | refused => rfl
  | unwritten => rfl
  | halfBound _ token => rw [Punctual.getElem?_write, if_neg (unbound token).symm]
  | halfKept => rw [Punctual.getElem?_write, if_neg unkept.symm, Punctual.getElem?_bound unbound]
  | complete => rw [Punctual.getElem?_place, if_neg unkept.symm, Punctual.getElem?_bound unbound]

/-- A creation changes nothing about which commands fail. -/
theorem failing (ended : Creation shelf who bearer apiToken bindingLife life answer left) :
    left.failing = shelf.failing := by
  cases ended with
  | refused => rfl
  | unwritten => rfl
  | halfBound => rw [Punctual.write_failing]
  | halfKept => rw [Punctual.write_failing, Punctual.bound_failing]
  | complete => rw [Punctual.place_failing, Punctual.bound_failing]

/-- A creation takes no time. -/
theorem now (ended : Creation shelf who bearer apiToken bindingLife life answer left) :
    left.now = shelf.now := by
  cases ended with
  | refused => rfl
  | unwritten => rfl
  | halfBound => rw [Punctual.write_now]
  | halfKept => rw [Punctual.write_now, Punctual.bound_now]
  | complete => rw [Punctual.place_now, Punctual.bound_now]

/-- A creation is answered well exactly if it is not refused, its fields can be written, and what it
writes can be limited. -/
theorem eq_ok_iff (ended : Creation shelf who bearer apiToken bindingLife life answer left) :
    answer = .ok () ↔
      Session.refusal? who bearer apiToken bindingLife life = none ∧ .write ∉ shelf.failing ∧
        (apiToken ≠ "" → shelf.limitFault? bindingLife = none) ∧
        shelf.limitFault? life = none := by
  -- Every end but the last lacks one of the four.
  cases ended with
  | refused failure refusal => simp [refusal]
  | unwritten accepted outage => simp [outage]
  | halfBound accepted token fault found => simp [token, found]
  | halfKept accepted limited fault found => simp [found]
  | complete accepted limited kept writable =>
    exact iff_of_true rfl ⟨accepted, writable, limited, kept⟩

/-- A creation that is answered well leaves the binding and the session in place. -/
theorem left_eq (ended : Creation shelf who bearer apiToken bindingLife life (.ok ()) left) :
    left = (shelf.bound who apiToken bindingLife).place (Key.session who)
      (Grant.ofTokens who bearer apiToken).fields life := by
  cases ended
  rfl

end Creation

end TenantSessions
