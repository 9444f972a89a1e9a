import TenantSessions.Proofs.Cache.Punctual
import TenantSessions.Cache.Link
import TenantSessions.Registrar

/-!
A link over which connections come about answers every command that it sends by the reply that is
next in turn: by the error that the reply signals, or else by what the reply reads as.
-/

namespace TenantSessions

namespace Command

/-- What the reply to a command comes to: the error that it signals, or what it reads as. -/
def hear (command : Command) (reply : Reply) : Except Fault command.Answer :=
  match reply.signal? with
  | some signal => .error (.signalled signal)
  | none => (command.readReply reply).mapError .mismatched

/-- Whether a link sends a command: lifetimes must not be too long, and there must be something to
delete. -/
def Sendable : Command → Prop
  | .expire _ life => life.millis ≤ Lifetime.maxMillis
  | .delete keys => keys ≠ []
  | _ => True

/-- Whether the only answer to a command is that it has been performed. -/
def Orders : Command → Prop
  | .write .. => True
  | .expire .. => True
  | _ => False

/-- Whatever is no error tells that an order has been performed. -/
theorem hear_of_orders {command : Command} (orders : command.Orders) (reply : Reply) :
    (∃ answer, reply.signal? = none ∧ command.hear reply = .ok answer) ∨
      ∃ signal, reply.signal? = some signal ∧
        command.hear reply = .error (.signalled signal) := by
  unfold hear
  cases reply.signal? with
  | some signal => exact .inr ⟨signal, rfl, rfl⟩
  | none =>
    -- Neither a write nor a limit looks at what the reply holds.
    cases command with
    | write => exact .inl ⟨(), rfl, rfl⟩
    | expire => exact .inl ⟨(), rfl, rfl⟩
    | present => exact absurd orders not_false
    | read => exact absurd orders not_false
    | readAll => exact absurd orders not_false
    | list => exact absurd orders not_false
    | delete => exact absurd orders not_false

end Command

namespace Link

/-- The reply to the command that is sent at a place from now on, the next one being at zero. -/
def reply (link : Link) (place : Nat) : Reply :=
  link.replies.getD place unprepared

/-- The link after a command has been sent over it and has used up a reply. -/
def after (link : Link) (command : Command) : Link :=
  { link with
    replies := link.replies.tail
    sent := link.sent ++ [command]
    log := link.log ++ command.logEvent?.toList }

/-- The words of what has been sent over a link. -/
def sentWords (link : Link) : List (List String) :=
  link.sent.map Command.words

@[simp] theorem after_outage (link : Link) (command : Command) :
    (link.after command).outage = link.outage := rfl

@[simp] theorem after_sent (link : Link) (command : Command) :
    (link.after command).sent = link.sent ++ [command] := rfl

@[simp] theorem sentWords_after (link : Link) (command : Command) :
    (link.after command).sentWords = link.sentWords ++ [command.words] := by
  rw [sentWords, after_sent, List.map_append]
  rfl

/-- Once a command has been sent, the replies are one place nearer. -/
@[simp] theorem reply_after (link : Link) (command : Command) (place : Nat) :
    (link.after command).reply place = link.reply (place + 1) := by
  -- A script that is over stays over.
  rw [reply, reply, after]
  cases link.replies <;> rfl

variable {link : Link} {command : Command}

/-- A command that goes to the server is answered by what its reply comes to. -/
theorem transact_eq (connected : link.outage = none) (command : Command) :
    link.transact command = (command.hear (link.reply 0), link.after command) := by
  have next : link.replies.headD unprepared = link.reply 0 := by
    rw [reply]
    cases link.replies <;> rfl
  rw [transact, Command.hear, after]
  -- The link connects, so both sides look at the same reply, first for an error.
  simp only [connected, next]
  cases (link.reply 0).signal? with
  | some signal => rfl
  | none => cases command.readReply (link.reply 0) <;> rfl

/-- A command that is sent is answered by what its reply comes to. -/
theorem answer_eq (connected : link.outage = none) (sendable : command.Sendable) :
    Cache.answer command link = (command.hear (link.reply 0), link.after command) := by
  have transacted := transact_eq connected command
  -- What may keep a link from sending is no part of this command.
  cases command with
  | expire key life =>
    show link.perform (.expire key life) = _
    rw [perform, life.expiry_of_short sendable]
    exact transacted
  | delete keys =>
    cases keys with
    | nil => exact absurd rfl sendable
    | cons key keys => exact transacted
  | write => exact transacted
  | present => exact transacted
  | read => exact transacted
  | readAll => exact transacted
  | list => exact transacted

/-- Putting a command that is sent ends with what its reply comes to, at its stage. -/
theorem hold_put (connected : link.outage = none) (sendable : command.Sendable) (stage : Stage) :
    (Dialogue.put command stage).hold link =
      ((command.hear (link.reply 0)).mapError (Failure.cache stage), link.after command) := by
  rw [Dialogue.hold_put, answer_eq connected sendable]

/-- What is heard is answered. -/
theorem hold_put_of_ok (connected : link.outage = none) (sendable : command.Sendable)
    {answer : command.Answer} (heard : command.hear (link.reply 0) = .ok answer) (stage : Stage) :
    (Dialogue.put command stage).hold link = (.ok answer, link.after command) := by
  rw [hold_put connected sendable, heard]
  rfl

/-- Where nothing can be made of a reply, the stage is reported. -/
theorem hold_put_of_error (connected : link.outage = none) (sendable : command.Sendable)
    {fault : Fault} (heard : command.hear (link.reply 0) = .error fault) (stage : Stage) :
    (Dialogue.put command stage).hold link =
      (.error (.cache stage fault), link.after command) := by
  rw [hold_put connected sendable, heard]
  rfl

end Link

/-- Whether a registrar sends just these words over its link when it serves a request. -/
def Registrar.Sends (registrar : Registrar Link) (request : Request) (words : List (List String)) :
    Prop :=
  (registrar.serve request).2.cache.sentWords = registrar.cache.sentWords ++ words

end TenantSessions
