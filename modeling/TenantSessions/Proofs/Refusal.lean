import TenantSessions.Proofs.Chronicle
import TenantSessions.Proofs.Delivery

/-!
What can be refused is refused before anything is put to a cache, and in a fixed order. Once a
creation has put its first command, no cache turns a lifetime down that no expiry command can carry.
-/

namespace TenantSessions

/-- Why a creation is refused. The reasons count in this order, so each holds only where those
before it do not. -/
inductive Refused (who : Identity) (bearer apiToken : String) (bindingLife life : Lifetime) :
    Failure → Prop where
  | org (missing : who.org = 0) : Refused who bearer apiToken bindingLife life .missingOrg
  | user (org : who.org ≠ 0) (missing : who.user = 0) :
      Refused who bearer apiToken bindingLife life .missingUser
  | credential (org : who.org ≠ 0) (user : who.user ≠ 0) (missing : bearer = "" ∧ apiToken = "") :
      Refused who bearer apiToken bindingLife life .missingCredential
  /-- The lifetime of a binding counts only if there is a token to be bound. -/
  | binding (org : who.org ≠ 0) (user : who.user ≠ 0) (token : apiToken ≠ "")
      (long : Lifetime.maxMillis < bindingLife.millis) :
      Refused who bearer apiToken bindingLife life
        (.cache (.limitingBinding who) (.lifetimeTooLong bindingLife))
  | session (org : who.org ≠ 0) (user : who.user ≠ 0) (presented : ¬ (bearer = "" ∧ apiToken = ""))
      (short : apiToken ≠ "" → bindingLife.millis ≤ Lifetime.maxMillis)
      (long : Lifetime.maxMillis < life.millis) :
      Refused who bearer apiToken bindingLife life
        (.cache (.limitingSession who) (.lifetimeTooLong life))

variable {who : Identity} {bearer apiToken : String} {bindingLife life : Lifetime}
  {failure : Failure}

namespace Session

/-- A creation finds a reason to be refused exactly if there is one. -/
theorem refusal?_eq_some_iff :
    refusal? who bearer apiToken bindingLife life = some failure ↔
      Refused who bearer apiToken bindingLife life failure := by
  constructor
  · intro refusal
    -- The reasons are looked at in the order in which they count.
    unfold refusal? at refusal
    split at refusal
    · rename_i org
      cases refusal
      exact .org org
    · rename_i org
      split at refusal
      · rename_i user
        cases refusal
        exact .user org user
      · rename_i user
        split at refusal
        · rename_i missing
          cases refusal
          exact .credential org user missing
        · rename_i presented
          split at refusal
          · rename_i binding
            cases refusal
            exact .binding org user binding.1 binding.2
          · rename_i binding
            split at refusal
            · rename_i long
              cases refusal
              exact .session org user presented
                (fun token => Nat.not_lt.mp fun tooLong => binding ⟨token, tooLong⟩) long
            · cases refusal
  · intro refused
    cases refused with
    | org missing => simp [refusal?, missing]
    | user org missing => simp [refusal?, org, missing]
    | credential org user missing => simp [refusal?, org, user, missing]
    | binding org user token long => simp [refusal?, org, user, token, long]
    | session org user presented short long =>
      have fits : ¬ (apiToken ≠ "" ∧ Lifetime.maxMillis < bindingLife.millis) :=
        fun both => Nat.not_lt.mpr (short both.1) both.2
      rw [refusal?, if_neg org, if_neg user, if_neg presented, if_neg fits, if_pos long]

/-- A creation that there is no reason to refuse is accepted. -/
theorem refusal?_eq_none
    (accepted : ∀ failure, ¬ Refused who bearer apiToken bindingLife life failure) :
    refusal? who bearer apiToken bindingLife life = none :=
  Option.eq_none_iff_forall_ne_some.mpr fun failure refusal =>
    accepted failure (refusal?_eq_some_iff.mp refusal)

end Session

namespace Registrar

/-- What a cache in memory may report of a creation that is not refused: a command that is made to
fail, or a deadline that its clock cannot name. -/
def Reports (registrar : Registrar Memory) (apiToken : String) (life : Lifetime) (fault : Fault) :
    Prop :=
  (∃ kind ∈ registrar.cache.failing, fault = .injected kind) ∨
    ∃ limit, (limit = life ∨ apiToken ≠ "" ∧ limit = registrar.bindingLife) ∧
      Instant.horizon < limit.overAt registrar.cache.now ∧ fault = .deadlineTooLate limit

/-- A creation over a cache in memory that is not refused fails by what the cache may report. -/
theorem reports_of_accepted {registrar : Registrar Memory}
    (accepted : Session.refusal? who bearer apiToken registrar.bindingLife life = none)
    (failed : (registrar.serve (.create who bearer apiToken life)).1 = .error failure) :
    ∃ stage fault, failure = .cache stage fault ∧ registrar.Reports apiToken life fault := by
  have ended := registrar.creation who bearer apiToken life
  rw [failed] at ended
  generalize (registrar.serve (.create who bearer apiToken life)).2.shelf = left at ended
  obtain ⟨bindingShort, short⟩ := Session.short_of_accepted accepted
  -- A write can only be made to fail, and a limit can also be too late.
  cases ended with
  | refused failure refusal => exact absurd (accepted.symm.trans refusal) (by simp)
  | unwritten _ outage stage => exact ⟨stage, _, rfl, .inl ⟨.write, outage, rfl⟩⟩
  | halfBound _ token fault found =>
    refine ⟨_, fault, rfl, ?_⟩
    rcases Punctual.limitFault?_cases (bindingShort token) found with
      ⟨outage, same⟩ | ⟨late, same⟩
    · exact .inl ⟨.expire, outage, same⟩
    · exact .inr ⟨registrar.bindingLife, .inr ⟨token, rfl⟩, late, same⟩
  | halfKept _ _ fault found =>
    refine ⟨_, fault, rfl, ?_⟩
    rcases Punctual.limitFault?_cases short found with
      ⟨outage, same⟩ | ⟨late, same⟩
    · exact .inl ⟨.expire, outage, same⟩
    · exact .inr ⟨life, .inl rfl, late, same⟩

end Registrar

namespace Link

variable {link : Link} {cause : Outage}

/-- Where no connection comes about, the first errand fails for that. -/
theorem hold_inOrder_of_outage (down : link.outage = some cause) {errand : Errand}
    (sendable : errand.command.Sendable) (rest : List Errand) :
    (Dialogue.inOrder (errand :: rest)).hold link =
      (.error (.cache errand.stage (.outage cause)), link) := by
  have transacted (command : Command) :
      link.transact command = (.error (.outage cause), link) := by
    rw [transact, down]
  have answered : Cache.answer errand.command link = (.error (.outage cause), link) := by
    obtain ⟨command, stage, orders⟩ := errand
    -- Only orders are among the errands.
    cases command with
    | write => exact transacted _
    | expire key life =>
      show link.perform (.expire key life) = _
      rw [perform, life.expiry_of_short sendable]
      exact transacted _
    | present => exact absurd orders not_false
    | read => exact absurd orders not_false
    | readAll => exact absurd orders not_false
    | list => exact absurd orders not_false
    | delete => exact absurd orders not_false
  rw [Dialogue.inOrder, Dialogue.hold_bind, Dialogue.hold_put, answered]
  rfl

/-- A creation over a link that is not refused fails because no connection comes about, or by an
error that the server signals. -/
theorem fault_of_accepted
    (accepted : Session.refusal? who bearer apiToken bindingLife life = none)
    (failed : ((Session.create who bearer apiToken bindingLife life).hold link).1 =
      .error failure) :
    ∃ stage fault, failure = .cache stage fault ∧
      ((∃ cause, link.outage = some cause ∧ fault = .outage cause) ∨
        ∃ signal, fault = .signalled signal) := by
  cases connected : link.outage with
  | some cause =>
    have sendable := Session.sendable_errands accepted
    rw [Session.hold_create, accepted] at failed
    dsimp only at failed
    rw [Session.writes_eq_inOrder] at failed
    -- There is an errand at least, that of writing the session.
    cases todo : Session.errands who bearer apiToken bindingLife life with
    | nil => simp [Session.errands, Session.keepErrands] at todo
    | cons errand rest =>
      rw [todo] at failed sendable
      rw [hold_inOrder_of_outage connected (sendable errand List.mem_cons_self)] at failed
      cases failed
      exact ⟨_, _, rfl, .inl ⟨cause, rfl, rfl⟩⟩
  | none =>
    obtain ⟨sent, delivered, -⟩ := hold_create connected accepted
    rw [failed] at delivered
    obtain ⟨_, last, signal, -, -, -, answer, -⟩ := delivered.stopped (by simp)
    cases answer
    exact ⟨_, _, rfl, .inr ⟨signal, rfl⟩⟩

end Link

namespace Registrar

/-- Whatever the cache is and whatever fails there, a creation that there is a reason to refuse is
answered by the first of its reasons, is over before a command is put, and leaves everything as it
was. Any other creation that fails does so by a command that is made to fail or a deadline that the
clock cannot name, in memory, and by an outage or an error of the server, over a link; never because
a lifetime is longer than an expiry command can carry. -/
theorem refused_before_writing (who : Identity) (bearer apiToken : String) (life : Lifetime) :
    (∀ {σ : Type} [Cache σ] (registrar : Registrar σ) failure,
      Refused who bearer apiToken registrar.bindingLife life failure →
        (Request.create who bearer apiToken life).dialogue registrar.bindingLife =
            .fail failure ∧
          registrar.serve (.create who bearer apiToken life) = (.error failure, registrar)) ∧
    (∀ (registrar : Registrar Memory) failure,
      (∀ reason, ¬ Refused who bearer apiToken registrar.bindingLife life reason) →
      (registrar.serve (.create who bearer apiToken life)).1 = .error failure →
        ∃ stage fault, failure = .cache stage fault ∧ registrar.Reports apiToken life fault) ∧
    ∀ (registrar : Registrar Link) failure,
      (∀ reason, ¬ Refused who bearer apiToken registrar.bindingLife life reason) →
      (registrar.serve (.create who bearer apiToken life)).1 = .error failure →
        ∃ stage fault, failure = .cache stage fault ∧
          ((∃ cause, registrar.cache.outage = some cause ∧ fault = .outage cause) ∨
            ∃ signal, fault = .signalled signal) := by
  refine ⟨fun {σ} _ registrar failure refused => ?_, fun registrar failure accepted failed => ?_,
    fun registrar failure accepted failed => ?_⟩
  -- A refusal is all of the dialogue, so it does not matter what the cache would do.
  · have ended : (Request.create who bearer apiToken life).dialogue registrar.bindingLife =
        .fail failure := by
      rw [Request.dialogue, Session.create_eq, Session.refusal?_eq_some_iff.mpr refused]
    refine ⟨ended, ?_⟩
    rw [serve, ended]
    rfl
  -- What is not refused is reported by the cache, and what it reports depends on its kind.
  · exact reports_of_accepted (Session.refusal?_eq_none accepted) failed
  · exact Link.fault_of_accepted (Session.refusal?_eq_none accepted) failed

/-- The longest lifetime that an expiry command can carry. -/
def longest : Lifetime where
  nanos := Lifetime.maxMillis * nanosPerMilli
  bounded := by decide

/-- The shortest lifetime that no expiry command can carry. -/
def tooLong : Lifetime where
  nanos := Lifetime.maxMillis * nanosPerMilli + 1
  bounded := by decide

/-- A cache in memory in which no command that writes is performed. -/
def closed : Memory :=
  (Memory.empty.fail .write).fail .expire

/-- Where nothing can be written, one nanosecond decides whether a creation is refused for its
lifetimes, that of the binding first, or comes to the cache and fails there. -/
theorem refused_before_writing_bySpan :
    ((Registrar.new closed (some tooLong)).serve (.create ⟨7, 42⟩ "" "api" tooLong)).1 =
        .error (.cache (.limitingBinding ⟨7, 42⟩) (.lifetimeTooLong tooLong)) ∧
      ((Registrar.new closed (some tooLong)).serve (.create ⟨7, 42⟩ "jwt" "" tooLong)).1 =
        .error (.cache (.limitingSession ⟨7, 42⟩) (.lifetimeTooLong tooLong)) ∧
      ∃ stage fault,
        ((Registrar.new closed (some longest)).serve (.create ⟨7, 42⟩ "" "api" longest)).1 =
          .error (.cache stage fault) ∧
        (Registrar.new closed (some longest)).Reports "api" longest fault ∧
        ∀ limit, fault ≠ .lifetimeTooLong limit := by
  obtain ⟨binding, -, -⟩ := refused_before_writing ⟨7, 42⟩ "" "api" tooLong
  obtain ⟨session, -, -⟩ := refused_before_writing ⟨7, 42⟩ "jwt" "" tooLong
  obtain ⟨-, fails, -⟩ := refused_before_writing ⟨7, 42⟩ "" "api" longest
  have unbound := (binding (.new closed (some tooLong)) _
    (.binding (by decide) (by decide) (by decide) (by decide))).2
  have unkept := (session (.new closed (some tooLong)) _
    (.session (by decide) (by decide) (by decide) (by decide) (by decide))).2
  have accepted : ∀ reason, ¬ Refused ⟨7, 42⟩ "" "api" longest longest reason := by
    intro reason refused
    have none : Session.refusal? ⟨7, 42⟩ "" "api" longest longest = none := by decide
    cases none.symm.trans (Session.refusal?_eq_some_iff.mpr refused)
  obtain ⟨stage, fault, failed, reported⟩ := fails (.new closed (some longest)) _ accepted rfl
  refine ⟨congrArg Prod.fst unbound, congrArg Prod.fst unkept, stage, fault, ?_, reported, ?_⟩
  · rw [← failed]
    rfl
  · -- What is reported is one of the two faults that a cache in memory has of its own.
    rintro limit rfl
    rcases reported with ⟨_, _, injected⟩ | ⟨_, _, _, late⟩
    · cases injected
    · cases late

end Registrar

end TenantSessions
