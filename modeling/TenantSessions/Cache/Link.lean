import TenantSessions.Dialogue
import TenantSessions.Key
import TenantSessions.Log.Event

/-!
A link leads to a cache server. Each command connects anew, may be logged, is sent, and consumes one
reply; what cannot be carried or needs no server is settled before connecting.
-/

namespace TenantSessions

namespace Command

/-- The name under which links log, by which log filters address them. -/
def logSource : String := "session_authority::cache::operations::redis_store"

/-- The event that a link logs before it sends a command; tokens are hidden, and plain reads are not
logged. -/
def logEvent? (command : Command) : Option LogEvent :=
  -- Keys, patterns and counts are logged, and no value of a field.
  let event (text : String) (values : List (String × String)) : LogEvent :=
    { level := .debug, source := logSource, text := text, values := values }
  match command with
  | .write key pairs =>
    some (event "HSET" [("key", Key.redact key), ("fields", pairs.length.repr)])
  | .expire key life =>
    some (event "PEXPIRE" [("key", Key.redact key), ("ttl_ms", life.millis.repr)])
  | .list pattern => some (event "KEYS" [("pattern", Text.quote pattern)])
  | .delete keys => some (event "DEL" [("count", keys.length.repr)])
  | _ => none

/-- Reads the reply to a command as its answer. -/
def readReply : (command : Command) → Reply → Except Reply.Mismatch command.Answer
  | .write .., _ => .ok ()
  | .expire .., _ => .ok ()
  | .present _, reply => reply.toBool
  | .read .., reply => reply.toText?
  | .readAll _, reply => reply.toFields
  | .list _, reply => reply.toTexts
  | .delete _, reply => reply.toCount

end Command

/-- A link to a server that will give certain replies, with what it has sent and logged so far. -/
structure Link where
  outage : Option Outage
  replies : List Reply
  sent : List Command
  log : List LogEvent

namespace Link

/-- The reply of a server that has no other reply left. -/
def unprepared : Reply :=
  .error "ERR unscripted"

/-- A link to a server with its replies, over which nothing has been sent yet. -/
def ofReplies (replies : List Reply) : Link where
  outage := none
  replies := replies
  sent := []
  log := []

/-- A link over which no connection comes about. -/
def down (cause : Outage) (replies : List Reply) : Link :=
  { ofReplies replies with outage := some cause }

/-- Sends a command over a new connection and reads the reply. -/
def transact (link : Link) (command : Command) : Except Fault command.Answer × Link :=
  match link.outage with
  -- Without a connection nothing is logged or sent, and no reply is used up.
  | some cause => (.error (.outage cause), link)
  | none =>
    let reply := link.replies.headD unprepared
    let link : Link :=
      { link with
        replies := link.replies.tail
        sent := link.sent ++ [command]
        log := link.log ++ command.logEvent?.toList }
    -- An error counts before the type of the reply, wherever in the reply it stands.
    match reply.signal? with
    | some signal => (.error (.signalled signal), link)
    | none =>
      match command.readReply reply with
      | .ok answer => (.ok answer, link)
      | .error mismatch => (.error (.mismatched mismatch), link)

/-- Performs a command; lifetimes are checked first, and deleting nothing needs no server. -/
def perform (link : Link) (command : Command) : Except Fault command.Answer × Link :=
  match command with
  | .expire key life =>
    match life.expiry with
    -- The milliseconds are worked out again from the lifetime when the command is sent.
    | .ok _ => link.transact (.expire key life)
    | .error fault => (.error fault, link)
  | .delete [] => (.ok 0, link)
  | command => link.transact command

instance : Cache Link where
  answer command link := link.perform command

end Link

end TenantSessions
