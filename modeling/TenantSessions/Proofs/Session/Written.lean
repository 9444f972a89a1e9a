import TenantSessions.Proofs.Session.Creation
import TenantSessions.Proofs.Transcript

/-! Which keys a creation writes: the binding of its API token first, if it has one, and then the
session of its identity, unless something has stopped it before. -/

namespace TenantSessions

namespace Dialogue

/-- A command alone is put once. -/
theorem transcript_put {σ : Type} [Cache σ] (command : Command) (stage : Stage) (state : σ) :
    (put command stage).transcript state =
      [⟨command, (Cache.answer command state).1.isOk⟩] := by
  simp only [put, transcript]
  cases Cache.answer command state with
  | mk answer left => cases answer <;> rfl

end Dialogue

namespace Punctual

/-- Writing a key and then limiting it writes the key, unless writes are made to fail. -/
theorem written_place (shelf : Punctual) (key : String) (pairs : List (String × String))
    (life : Lifetime) (writing limiting : Stage) :
    (Dialogue.put (.write key pairs) writing >>= fun _ =>
        Dialogue.put (.expire key life) limiting : Dialogue Unit).written shelf =
      if .write ∈ shelf.failing then [] else [key] := by
  rw [Dialogue.written_bind, hold_write, Dialogue.written, Dialogue.transcript_put]
  -- Whether the key is written is settled by the first command, and a failed one is the last.
  by_cases outage : Command.Kind.write ∈ shelf.failing
  · have failed : Cache.answer (.write key pairs) shelf =
        (.error (.injected .write), shelf) := if_pos outage
    rw [failed]
    simp only [if_pos outage]
    rfl
  · have done : Cache.answer (.write key pairs) shelf = (.ok (), shelf.write key pairs) :=
      if_neg outage
    -- A limit sets no field, whether the cache performs it or not.
    rw [done]
    simp only [if_neg outage]
    rw [Dialogue.written, Dialogue.transcript_put]
    rfl

/-- What a creation writes that is not refused. -/
theorem written_writes (shelf : Punctual) (who : Identity) (bearer apiToken : String)
    (bindingLife life : Lifetime) :
    (Session.writes who bearer apiToken bindingLife life).written shelf =
      if .write ∈ shelf.failing then []
      else if apiToken = "" then [Key.session who]
      else if shelf.limitFault? bindingLife = none then [Key.apiToken apiToken, Key.session who]
      else [Key.apiToken apiToken] := by
  have keep (state : Punctual) :
      (Session.keep (.ofTokens who bearer apiToken) life).written state = _ :=
    written_place state (Key.session who) (Grant.ofTokens who bearer apiToken).fields life
      (.writingSession who) (.limitingSession who)
  have bind : (Session.bind who apiToken bindingLife).written shelf = _ :=
    written_place shelf (Key.apiToken apiToken) who.fields bindingLife (.writingBinding who)
      (.limitingBinding who)
  have bound : (Session.bind who apiToken bindingLife).hold shelf = _ :=
    hold_place shelf (Key.apiToken apiToken) who.fields bindingLife (.writingBinding who)
      (.limitingBinding who)
  by_cases token : apiToken = ""
  · simp only [Session.writes, if_pos token, keep]
  -- The session is begun only if the binding is complete.
  · simp only [Session.writes, if_neg token]
    rw [Dialogue.written_bind, bind, bound]
    by_cases outage : Command.Kind.write ∈ shelf.failing
    · simp only [if_pos outage, List.append_nil]
    · simp only [if_neg outage]
      cases shelf.limitFault? bindingLife with
      | some fault => rfl
      | none =>
        simp only [keep, place_failing, if_neg outage, if_true]
        rfl

/-- A creation writes no session but that of its identity, and this if it is not refused, writes do
not fail, and there is no binding that cannot be limited. -/
theorem session_mem_written_iff (shelf : Punctual) (who other : Identity)
    (bearer apiToken : String) (bindingLife life : Lifetime) :
    Key.session other ∈ (Session.create who bearer apiToken bindingLife life).written shelf ↔
      who = other ∧ Session.refusal? who bearer apiToken bindingLife life = none ∧
        .write ∉ shelf.failing ∧ (apiToken ≠ "" → shelf.limitFault? bindingLife = none) := by
  rw [Session.create_eq]
  cases Session.refusal? who bearer apiToken bindingLife life with
  | some failure => simp [Dialogue.written, Dialogue.transcript]
  | none =>
    dsimp only
    rw [written_writes]
    -- The session is in the list wherever the writes come as far as that.
    by_cases outage : Command.Kind.write ∈ shelf.failing
    · simp [outage]
    by_cases token : apiToken = ""
    · simp [outage, token, eq_comm]
    by_cases limited : shelf.limitFault? bindingLife = none
    · simp [outage, token, limited, eq_comm]
    · simp [outage, token, limited]

/-- A creation writes no binding but that of its API token, and this if it has one, is not refused,
and writes do not fail. -/
theorem binding_mem_written_iff (shelf : Punctual) (who : Identity)
    (bearer apiToken presented : String) (bindingLife life : Lifetime) :
    Key.apiToken presented ∈ (Session.create who bearer apiToken bindingLife life).written shelf ↔
      (apiToken ≠ "" ∧ apiToken = presented) ∧
        Session.refusal? who bearer apiToken bindingLife life = none ∧ .write ∉ shelf.failing := by
  rw [Session.create_eq]
  cases Session.refusal? who bearer apiToken bindingLife life with
  | some failure => simp [Dialogue.written, Dialogue.transcript]
  | none =>
    dsimp only
    rw [written_writes]
    by_cases outage : Command.Kind.write ∈ shelf.failing
    · simp [outage]
    by_cases token : apiToken = ""
    · simp [outage, token]
    -- The binding comes first, so it is written whether it can be limited or not.
    by_cases limited : shelf.limitFault? bindingLife = none
    · simp [outage, token, limited, eq_comm]
    · simp [outage, token, limited, eq_comm]

end Punctual

end TenantSessions
