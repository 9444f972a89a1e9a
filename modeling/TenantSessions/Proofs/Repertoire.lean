import TenantSessions.Proofs.Delivery
import TenantSessions.Proofs.Transcript

/-!
The commands that an operation may put, whatever it is answered. A check only reads, so that it is
not logged; and no operation puts a command that a link would settle without its server.
-/

namespace TenantSessions

/-- A dialogue that puts only commands that are allowed, whatever is answered. -/
inductive Dialogue.Puts {α : Type} (allowed : Command → Prop) : Dialogue α → Prop where
  | done (value : α) : Puts allowed (.done value)
  | fail (failure : Failure) : Puts allowed (.fail failure)
  | ask {command : Command} {stage : Stage} {next : command.Answer → Dialogue α}
      (among : allowed command) (follow : ∀ answer, Puts allowed (next answer)) :
      Puts allowed (.ask command stage next)

namespace Dialogue.Puts

variable {α β : Type} {allowed : Command → Prop}

/-- Two dialogues in a row put only what each of them puts. -/
theorem bind {dialogue : Dialogue α} (puts : dialogue.Puts allowed) {follow : α → Dialogue β}
    (others : ∀ value, (follow value).Puts allowed) : (dialogue >>= follow).Puts allowed := by
  -- The second dialogue takes the place of each end of the first.
  induction puts with
  | done value => exact others value
  | fail failure => exact .fail failure
  | ask among _ ih => exact .ask among ih

/-- What is computed without the cache puts no command. -/
theorem ofExcept (result : Except Failure α) : (Dialogue.ofExcept result).Puts allowed := by
  cases result with
  | ok value => exact .done value
  | error failure => exact .fail failure

/-- A dialogue that puts only what is allowed puts only what is allowed more widely. -/
theorem mono {wider : Command → Prop} (wide : ∀ command, allowed command → wider command)
    {dialogue : Dialogue α} (puts : dialogue.Puts allowed) : dialogue.Puts wider := by
  induction puts with
  | done value => exact .done value
  | fail failure => exact .fail failure
  | ask among _ ih => exact .ask (wide _ among) ih

/-- Errands in a row put only their commands. -/
theorem inOrder {errands : List Errand} (among : ∀ errand ∈ errands, allowed errand.command) :
    (Dialogue.inOrder errands).Puts allowed := by
  -- No errand looks at an answer, so the rest of the errands follows whatever is answered.
  induction errands with
  | nil => exact .done ()
  | cons errand rest ih =>
    have others := ih fun later member => among later (List.mem_cons_of_mem _ member)
    exact .ask (among errand List.mem_cons_self) fun _ => others

end Dialogue.Puts

/-- Whether a command reads what is kept under one key. -/
def Command.Reads : Command → Prop
  | .present _ => True
  | .read .. => True
  | .readAll _ => True
  | _ => False

/-- A read is not logged, and can always be sent. -/
theorem Command.Reads.plain {command : Command} (reads : command.Reads) :
    command.logEvent? = none ∧ command.Sendable ∧
      ∀ link : Link, Cache.answer command link = link.transact command := by
  cases command with
  | present => exact ⟨rfl, trivial, fun _ => rfl⟩
  | read => exact ⟨rfl, trivial, fun _ => rfl⟩
  | readAll => exact ⟨rfl, trivial, fun _ => rfl⟩
  | write => exact absurd reads not_false
  | expire => exact absurd reads not_false
  | list => exact absurd reads not_false
  | delete => exact absurd reads not_false

namespace Session

/-- Confirming a token only reads. -/
theorem confirm_puts (who : Identity) (field presented : String) :
    (confirm who field presented).Puts Command.Reads := by
  -- The key is asked for, then its field is read if it is there, and the rest is a comparison.
  refine .ask trivial fun present => ?_
  cases present with
  | false => exact .fail _
  | true =>
    refine .ask trivial fun stored => ?_
    show Dialogue.Puts _ (if agrees stored presented then _ else _)
    split
    · exact .done ()
    · exact .fail _

/-- Checking a bearer token only reads. -/
theorem checkBearer_puts (who : Identity) (bearer : String) :
    (checkBearer who bearer).Puts Command.Reads :=
  .bind (.ofExcept _) fun _ => confirm_puts who Record.bearer bearer

/-- Resolving an API token only reads. -/
theorem resolve_puts (apiToken : String) : (resolve apiToken).Puts Command.Reads := by
  unfold resolve
  split
  · exact .fail _
  · -- The binding is read, and if it is there the session that it leads to.
    refine .ask trivial fun fields => ?_
    show Dialogue.Puts _ (if fields.isEmpty then _ else _)
    split
    · exact .fail _
    · exact .bind (.ofExcept _) fun who =>
        (confirm_puts who Record.apiToken apiToken).bind fun _ => .done who

end Session

/-- No operation puts a command that a link would settle by itself: lifetimes that are too long are
refused before anything is put, and nothing is deleted where nothing is listed. -/
theorem Request.dialogue_puts (request : Request) (bindingLife : Lifetime) :
    (request.dialogue bindingLife).Puts Command.Sendable := by
  have sendable (command : Command) (reads : command.Reads) : command.Sendable := reads.plain.2.1
  cases request with
  | create who bearer apiToken life =>
    show (Session.create who bearer apiToken bindingLife life).Puts _
    rw [Session.create_eq]
    cases accepted : Session.refusal? who bearer apiToken bindingLife life with
    | some failure => exact .fail failure
    | none =>
      -- A creation that is not refused is a row of errands, none of which lasts too long.
      show (Session.writes who bearer apiToken bindingLife life).Puts _
      rw [Session.writes_eq_inOrder]
      exact .inOrder (Session.sendable_errands accepted)
  | checkBearer who bearer => exact (Session.checkBearer_puts who bearer).mono sendable
  | resolve apiToken => exact (Session.resolve_puts apiToken).mono sendable
  | revoke who => exact .ask (List.cons_ne_nil _ _) fun _ => .done ()
  | revokeOrg org =>
    refine .ask trivial fun keys => ?_
    show Dialogue.Puts _ (if List.isEmpty keys then _ else _)
    split
    · exact .done 0
    · -- Only here is anything deleted, and it is known that something is listed.
      rename_i listed
      have some : keys ≠ [] := by simpa using listed
      exact .ask some .done

namespace Link

variable {α : Type} {dialogue : Dialogue α} {link : Link}

/-- A dialogue whose commands can all be sent sends just those that it puts, and the link stays up.
-/
theorem sentWords_hold (puts : dialogue.Puts Command.Sendable) (connected : link.outage = none) :
    (dialogue.hold link).2.sentWords =
        link.sentWords ++ (dialogue.transcript link).map (·.command.words) ∧
      (dialogue.hold link).2.outage = none := by
  -- The induction is on the dialogue; what one command leaves is the link of the next.
  induction puts generalizing link with
  | done => exact ⟨(List.append_nil _).symm, connected⟩
  | fail => exact ⟨(List.append_nil _).symm, connected⟩
  | @ask command stage next sendable _ ih =>
    have answered := answer_eq connected sendable
    rw [Dialogue.hold, Dialogue.transcript, answered]
    cases command.hear (link.reply 0) with
    | error fault => exact ⟨sentWords_after link command, connected⟩
    | ok answer =>
      obtain ⟨sent, still⟩ := ih answer ((after_outage link command).trans connected)
      refine ⟨sent.trans ?_, still⟩
      rw [sentWords_after, List.append_assoc]
      rfl

/-- A read leaves the log as it is, whether or not a connection comes about. -/
theorem log_answer {command : Command} (reads : command.Reads) (link : Link) :
    (Cache.answer command link).2.log = link.log := by
  obtain ⟨unlogged, -, sent⟩ := reads.plain
  rw [sent]
  cases connected : link.outage with
  | some cause => rw [transact, connected]
  | none =>
    rw [transact_eq connected]
    show link.log ++ command.logEvent?.toList = link.log
    rw [unlogged]
    exact List.append_nil _

/-- A dialogue that only reads leaves the log as it is. -/
theorem log_hold (puts : dialogue.Puts Command.Reads) (link : Link) :
    (dialogue.hold link).2.log = link.log := by
  -- Each read leaves the log to the next one as it has found it.
  induction puts generalizing link with
  | done => rfl
  | fail => rfl
  | @ask command stage next reads _ ih =>
    have quiet := log_answer reads link
    rw [Dialogue.hold]
    cases answered : Cache.answer command link with
    | mk answer left =>
      rw [answered] at quiet
      cases answer with
      | ok answer => exact (ih answer left).trans quiet
      | error fault => exact quiet

end Link

end TenantSessions
