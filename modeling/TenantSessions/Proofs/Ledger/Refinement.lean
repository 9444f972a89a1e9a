import TenantSessions.Proofs.Chronicle
import TenantSessions.Proofs.Ledger.Agreement

/-! A registrar over a cache in memory answers every script as its ledger does, as long as no
command is made to fail. -/

namespace TenantSessions

namespace Ledger

/-- An empty cache is the copy of an empty ledger. -/
theorem copied_new (bindingLife : Option Lifetime) :
    (new (some Instant.horizon) bindingLife).Copied Memory.empty.punctual where
  sound := rfl
  now := rfl
  horizon := rfl
  tidy := by
    -- An empty cache keeps nothing.
    intro key there
    simp [Memory.punctual, Memory.getElem?_live, Memory.empty] at there
  session := by
    intro who
    simp [Punctual.session?, Memory.punctual, Memory.getElem?_live, Memory.empty, session?, new]
  binding := by
    intro apiToken
    simp [Punctual.binding?, Memory.punctual, Memory.getElem?_live, Memory.empty, binding?, new]

/-- A registrar keeps a ledger if its cache is a copy of it and both give bindings one lifetime. -/
structure Kept (registrar : Registrar Memory) (ledger : Ledger) : Prop where
  copied : ledger.Copied registrar.shelf
  bindingLife : ledger.bindingLife = registrar.bindingLife

/-- A registrar serves as the ledger that it keeps, and goes on keeping it. -/
theorem Kept.serve {registrar : Registrar Memory} {ledger : Ledger} (kept : Kept registrar ledger)
    (request : Request) :
    (registrar.serve request).1 = (Desk.serve ledger request).1 ∧
      Kept (registrar.serve request).2 (Desk.serve ledger request).2 := by
  obtain ⟨copied, bindingLife⟩ := kept
  -- What the registrar answers and shows is read off its punctual cache, request by request.
  have held := registrar.hold_serve request
  cases request with
  | create who bearer apiToken life =>
    obtain ⟨answer, left⟩ := copied.create who bearer apiToken life
    rw [Request.dialogue, ← bindingLife] at held
    rw [held] at answer left
    exact ⟨answer, left, (ledger.create_bindingLife who bearer apiToken life).trans bindingLife⟩
  | checkBearer who bearer =>
    rw [Request.dialogue, Punctual.hold_checkBearer] at held
    obtain ⟨answer, left⟩ := Prod.mk.inj held
    refine ⟨answer.symm.trans (copied.bearerVerdict who bearer), ?_, bindingLife⟩
    exact left ▸ copied
  | resolve apiToken =>
    rw [Request.dialogue, Punctual.hold_resolve] at held
    obtain ⟨answer, left⟩ := Prod.mk.inj held
    refine ⟨answer.symm.trans (copied.resolution apiToken), ?_, bindingLife⟩
    exact left ▸ copied
  | revoke who =>
    rw [Request.dialogue, Punctual.hold_revoke, copied.sound] at held
    obtain ⟨answer, left⟩ := Prod.mk.inj held
    refine ⟨answer.symm, ?_, bindingLife⟩
    exact left ▸ copied.revoke who
  | revokeOrg org =>
    rw [Request.dialogue, Punctual.hold_revokeOrg_of_sound copied.sound] at held
    obtain ⟨answer, left⟩ := Prod.mk.inj held
    refine ⟨answer.symm.trans (congrArg Except.ok (copied.length_orgKeys org)), ?_, bindingLife⟩
    exact left ▸ copied.revokeOrg org

/-- Time passes for a registrar as for the ledger that it keeps. -/
theorem Kept.pass {registrar : Registrar Memory} {ledger : Ledger} (kept : Kept registrar ledger)
    (span : Lifetime) : Option.Rel Kept (Desk.pass? registrar span) (Desk.pass? ledger span) := by
  have passed := kept.copied.pass span
  have moved : Desk.pass? registrar span =
      (registrar.cache.advance? span).map fun cache => { registrar with cache := cache } := rfl
  rw [Registrar.shelf, Memory.advance?_punctual] at passed
  rw [moved]
  -- The clocks of both go on, or neither does.
  cases cache? : registrar.cache.advance? span with
  | none =>
    cases ledger? : Desk.pass? ledger span with
    | none => exact .none
    | some later => simp [cache?, ledger?] at passed
  | some cache =>
    cases ledger? : Desk.pass? ledger span with
    | none => simp [cache?, ledger?] at passed
    | some later =>
      rw [cache?, ledger?, Option.map_some, Option.rel_some_some] at passed
      exact .some ⟨passed, (pass?_bindingLife ledger?).trans kept.bindingLife⟩

/-- Registrars over caches in memory and the ledgers that they keep simulate each other. -/
theorem simulation_kept : Desk.Simulation Kept where
  serve := Kept.serve
  reopen kept bindingLife := ⟨kept.copied.reopen bindingLife, rfl⟩
  pass := Kept.pass

end Ledger

/-- A registrar over a new cache in memory answers every script as a new ledger does whose deadlines
are bounded by the clock. -/
theorem Registrar.answers_eq_ledger (bindingLife : Option Lifetime) (script : List Event) :
    Desk.answers (Registrar.new Memory.empty bindingLife) script =
      Desk.answers (Ledger.new (some Instant.horizon) bindingLife) script :=
  Ledger.simulation_kept.answers_eq script ⟨Ledger.copied_new bindingLife, rfl⟩

/-- A session whose lifetime is longer than the time that the clock has left. -/
def lateCreation : Request :=
  .create ⟨7, 42⟩ "jwt" "" (.ofSeconds 9000000000)

/-- The answers of a registrar are not those of a ledger without a last deadline: shortly before the
clock ends, a session whose lifetime can be expressed cannot be limited to it. -/
theorem Registrar.answers_ne_unbounded :
    ¬ ∀ (bindingLife : Option Lifetime) (script : List Event),
      Desk.answers (Registrar.new Memory.empty bindingLife) script =
        Desk.answers (Ledger.new none bindingLife) script := by
  intro claimed
  have alike := claimed none [.pass (.ofSeconds 9223372036000000000), .serve lateCreation]
  -- The deadline lies behind the last instant of the clock, of which the ledger knows nothing.
  have failed : Desk.answers (Registrar.new Memory.empty none)
      [.pass (.ofSeconds 9223372036000000000), .serve lateCreation] =
        [.passed, .served lateCreation (.error (.cache (.limitingSession ⟨7, 42⟩)
          (.deadlineTooLate (.ofSeconds 9000000000))))] := rfl
  have opened : Desk.answers (Ledger.new none none)
      [.pass (.ofSeconds 9223372036000000000), .serve lateCreation] =
        [.passed, .served lateCreation (.ok ())] := rfl
  rw [failed, opened] at alike
  simp at alike

end TenantSessions
