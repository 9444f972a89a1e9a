import TenantSessions.Proofs.Cache.Link
import TenantSessions.Proofs.Lifetime
import TenantSessions.Proofs.Session.Creation

/-!
What is sent to a server when something is to be changed there. A creation follows one script: it
sends the messages in order, stops at the first that is replied to by an error, and reports the
stage of that message. A revocation is one message, and the revocation of an org is two.
-/

namespace TenantSessions

/-- A command whose only answer is that it has been performed, and the stage at which it is put. -/
structure Errand where
  command : Command
  stage : Stage
  orders : command.Orders

/-- What is sent to a server, the stage that a failure would report, and how it is described. -/
structure Message where
  stage : Stage
  action : String
  words : List String
deriving DecidableEq, Repr

/-- The message by which a server is told of an errand. -/
def Errand.message (errand : Errand) : Message where
  stage := errand.stage
  action := errand.stage.action
  words := errand.command.words

/-- Does errands in their order. -/
def Dialogue.inOrder : List Errand → Dialogue Unit
  | [] => .done ()
  | errand :: rest => do
    let _ ← put errand.command errand.stage
    inOrder rest

/-- What comes of sending a script over a link: which of its messages are sent, and the answer. -/
structure Delivered (link : Link) (script : List Message) (answer : Except Failure Unit)
    (sent : List Message) : Prop where
  ordered : sent <+: script
  complete : answer = .ok () ↔
    sent = script ∧ ∀ place < script.length, (link.reply place).signal? = none
  /-- Where sending stops, the last message is the first that is replied to by an error. -/
  stopped : answer ≠ .ok () → ∃ done last signal, sent = done ++ [last] ∧
    (∀ place < done.length, (link.reply place).signal? = none) ∧
    (link.reply done.length).signal? = some signal ∧
    answer = .error (.cache last.stage (.signalled signal)) ∧ last.stage.action = last.action

namespace Delivered

variable {link : Link} {message : Message} {script sent : List Message}

/-- Where there is nothing to send all is well. -/
theorem nil (link : Link) : Delivered link [] (.ok ()) [] where
  ordered := List.prefix_rfl
  complete := by simp
  stopped := fun failed => absurd rfl failed

/-- A message that is replied to by an error is the last. -/
theorem refused {signal : Reply.Signal} (loud : (link.reply 0).signal? = some signal)
    (described : message.stage.action = message.action) :
    Delivered link (message :: script) (.error (.cache message.stage (.signalled signal)))
      [message] where
  ordered := ⟨script, rfl⟩
  complete := by
    -- The very first reply is an error, however long the script is.
    constructor
    · intro fine
      cases fine
    · intro fine
      have first := fine.2 0 (Nat.succ_pos _)
      rw [loud] at first
      cases first
  stopped := fun _ => ⟨[], message, signal, rfl, by simp, loud, rfl, described⟩

/-- A message that is replied to by no error is followed by the rest of the script. -/
theorem performed {command : Command} {answer : Except Failure Unit}
    (quiet : (link.reply 0).signal? = none)
    (following : Delivered (link.after command) script answer sent) :
    Delivered link (message :: script) answer (message :: sent) where
  ordered := (List.prefix_cons_inj message).mpr following.ordered
  complete := by
    -- Each later reply is one place further away than it is once the message has been sent.
    rw [following.complete, List.cons.injEq, List.length_cons, Nat.forall_lt_succ_left]
    simp [quiet]
  stopped := fun failed => by
    -- It is the rest that stops, so the message at hand is one more of those that are done.
    obtain ⟨done, last, signal, parted, before, loud, answered⟩ := following.stopped failed
    refine ⟨message :: done, last, signal, by rw [parted]; rfl, ?_, ?_, answered⟩
    · rw [List.length_cons, Nat.forall_lt_succ_left]
      simpa [quiet] using before
    · simpa using loud

end Delivered

namespace Link

/-- Errands that can be sent are delivered as a script of messages. -/
theorem hold_inOrder {errands : List Errand}
    (sendable : ∀ errand ∈ errands, errand.command.Sendable) (link : Link)
    (connected : link.outage = none) :
    ∃ sent, Delivered link (errands.map Errand.message)
        ((Dialogue.inOrder errands).hold link).1 sent ∧
      ((Dialogue.inOrder errands).hold link).2.sentWords =
        link.sentWords ++ sent.map Message.words := by
  -- The induction is on the errands, as the link that one leaves is the next one's to use.
  induction errands generalizing link with
  | nil => exact ⟨[], .nil link, (List.append_nil _).symm⟩
  | cons errand rest ih =>
    have first := sendable errand List.mem_cons_self
    have others : ∀ later ∈ rest, later.command.Sendable :=
      fun later among => sendable later (List.mem_cons_of_mem _ among)
    rw [Dialogue.inOrder, Dialogue.hold_bind]
    rcases errand.command.hear_of_orders errand.orders (link.reply 0) with
      ⟨answer, quiet, heard⟩ | ⟨signal, loud, heard⟩
    · rw [hold_put_of_ok connected first heard]
      obtain ⟨sent, delivered, words⟩ := ih others (link.after errand.command) connected
      refine ⟨errand.message :: sent, delivered.performed quiet, words.trans ?_⟩
      simp [Errand.message]
    · rw [hold_put_of_error connected first heard]
      exact ⟨[errand.message], .refused loud rfl, sentWords_after link errand.command⟩

end Link

/-- The word that names the session of an identity to a server. -/
def Word.session (who : Identity) : String :=
  "session:org:" ++ who.org.toInt.repr ++ ":user:" ++ who.user.toInt.repr

/-- The word that names all sessions of an org to a server. -/
def Word.sessions (org : Id) : String :=
  "session:org:" ++ org.toInt.repr ++ ":user:*"

/-- The word that names the binding of an API token to a server. -/
def Word.binding (apiToken : String) : String :=
  "apiToken:" ++ apiToken

/-- The words by which a failure names an identity. -/
def Word.owner (who : Identity) : String :=
  "org " ++ who.org.toInt.repr ++ " user " ++ who.user.toInt.repr

/-- A session is kept under its word. -/
theorem Key.session_eq_word (who : Identity) : Key.session who = Word.session who := rfl

/-- The pattern of an org is the word for its sessions. -/
theorem Key.orgPattern_eq_word (org : Id) : Key.orgPattern org = Word.sessions org := by
  -- The star is a text of its own in the pattern.
  have joined : ":user:" ++ "*" = ":user:*" := rfl
  rw [Key.orgPattern, Key.orgMark, Word.sessions, String.append_assoc, joined]
  rfl

namespace Session

/-- The errands of binding an API token to an identity. -/
def bindErrands (who : Identity) (apiToken : String) (life : Lifetime) : List Errand :=
  [⟨.write (Key.apiToken apiToken) who.fields, .writingBinding who, trivial⟩,
    ⟨.expire (Key.apiToken apiToken) life, .limitingBinding who, trivial⟩]

/-- The errands of writing a session. -/
def keepErrands (grant : Grant) (life : Lifetime) : List Errand :=
  [⟨.write (Key.session grant.who) grant.fields, .writingSession grant.who, trivial⟩,
    ⟨.expire (Key.session grant.who) life, .limitingSession grant.who, trivial⟩]

/-- The errands of a creation that is not refused. -/
def errands (who : Identity) (bearer apiToken : String) (bindingLife life : Lifetime) :
    List Errand :=
  (if apiToken = "" then [] else bindErrands who apiToken bindingLife) ++
    keepErrands (.ofTokens who bearer apiToken) life

/-- The writes of a creation are its errands in order. -/
theorem writes_eq_inOrder (who : Identity) (bearer apiToken : String)
    (bindingLife life : Lifetime) :
    writes who bearer apiToken bindingLife life =
      .inOrder (errands who bearer apiToken bindingLife life) := by
  -- A dialogue that ends with its last command ends as one that goes on with nothing.
  unfold writes errands
  by_cases token : apiToken = ""
  · rw [if_pos token, if_pos token]
    rfl
  · rw [if_neg token, if_neg token]
    rfl

/-- The errands of a creation that is not refused can be sent. -/
theorem sendable_errands {who : Identity} {bearer apiToken : String} {bindingLife life : Lifetime}
    (accepted : refusal? who bearer apiToken bindingLife life = none) :
    ∀ errand ∈ errands who bearer apiToken bindingLife life, errand.command.Sendable := by
  obtain ⟨bindingShort, short⟩ := short_of_accepted accepted
  intro errand among
  -- Writes can always be sent, and the lifetime of a binding counts only if there is a token.
  rcases List.mem_append.mp among with binding | keeping
  · by_cases token : apiToken = ""
    · simp [token] at binding
    · rw [if_neg token] at binding
      simp only [bindErrands, List.mem_cons, List.not_mem_nil, or_false] at binding
      rcases binding with rfl | rfl
      · exact trivial
      · exact Nat.not_lt.mp (bindingShort token)
  · simp only [keepErrands, List.mem_cons, List.not_mem_nil, or_false] at keeping
    rcases keeping with rfl | rfl
    · exact trivial
    · exact Nat.not_lt.mp short

/-- The words of the two numbers of an identity, each behind its name. -/
def numberWords (who : Identity) : List String :=
  ["org", who.org.toInt.repr, "user", who.user.toInt.repr]

/-- The words of the tokens that are not empty, each behind its name. -/
def tokenWords (bearer apiToken : String) : List String :=
  (if bearer = "" then [] else ["jwt", bearer]) ++
    if apiToken = "" then [] else ["apiToken", apiToken]

/-- The word of a lifetime: its milliseconds, rounded up. -/
def lifeWord (life : Lifetime) : String :=
  ((life.nanos + 999999) / 1000000).repr

/-- What a server is told to bind an API token. -/
def bindScript (who : Identity) (apiToken : String) (life : Lifetime) : List Message :=
  [⟨.writingBinding who, "writing api token index for " ++ Word.owner who,
      ["HMSET", Word.binding apiToken] ++ numberWords who⟩,
    ⟨.limitingBinding who, "setting api token index ttl for " ++ Word.owner who,
      ["PEXPIRE", Word.binding apiToken, lifeWord life]⟩]

/-- What a server is told to keep a session. -/
def keepScript (who : Identity) (bearer apiToken : String) (life : Lifetime) : List Message :=
  [⟨.writingSession who, "writing session for " ++ Word.owner who,
      ["HMSET", Word.session who] ++ numberWords who ++ tokenWords bearer apiToken⟩,
    ⟨.limitingSession who, "setting session ttl for " ++ Word.owner who,
      ["PEXPIRE", Word.session who, lifeWord life]⟩]

/-- What a creation has to tell a server: the binding before the session, if there is a token to be
bound, and of each the fields before the lifetime. -/
def script (who : Identity) (bearer apiToken : String) (bindingLife life : Lifetime) :
    List Message :=
  (if apiToken = "" then [] else bindScript who apiToken bindingLife) ++
    keepScript who bearer apiToken life

/-- The milliseconds of a lifetime are its word. -/
theorem millis_repr (life : Lifetime) : life.millis.repr = lifeWord life := by
  rw [Lifetime.millis_eq, lifeWord]

/-- The words of a session's fields are those of its numbers and of its tokens. -/
theorem flatMap_fields (who : Identity) (bearer apiToken : String) :
    ((Grant.ofTokens who bearer apiToken).fields.flatMap fun pair => [pair.1, pair.2]) =
      numberWords who ++ tokenWords bearer apiToken := by
  -- Each of the two tokens is there or missing.
  by_cases bearing : bearer = "" <;> by_cases token : apiToken = "" <;>
    simp [numberWords, tokenWords, Identity.fields, Grant.fields, Grant.ofTokens, Grant.token?,
      Decimal.write, Record.org, Record.user, Record.bearer, Record.apiToken, bearing, token]

/-- The errands of a binding are told by its script. -/
theorem message_bindErrands (who : Identity) (apiToken : String) (life : Lifetime) :
    (bindErrands who apiToken life).map Errand.message = bindScript who apiToken life := by
  rw [bindScript, ← millis_repr]
  rfl

/-- The errands of a session are told by its script. -/
theorem message_keepErrands (who : Identity) (bearer apiToken : String) (life : Lifetime) :
    (keepErrands (.ofTokens who bearer apiToken) life).map Errand.message =
      keepScript who bearer apiToken life := by
  rw [keepScript, ← millis_repr, List.append_assoc, ← flatMap_fields]
  rfl

/-- The errands of a creation are told by its script. -/
theorem message_errands (who : Identity) (bearer apiToken : String) (bindingLife life : Lifetime) :
    (errands who bearer apiToken bindingLife life).map Errand.message =
      script who bearer apiToken bindingLife life := by
  rw [errands, script, List.map_append, message_keepErrands, ← message_bindErrands]
  split <;> rfl

end Session

namespace Link

variable {link : Link}

/-- A creation that is not refused delivers its script. -/
theorem hold_create (connected : link.outage = none) {who : Identity} {bearer apiToken : String}
    {bindingLife life : Lifetime}
    (accepted : Session.refusal? who bearer apiToken bindingLife life = none) :
    ∃ sent, Delivered link (Session.script who bearer apiToken bindingLife life)
        ((Session.create who bearer apiToken bindingLife life).hold link).1 sent ∧
      ((Session.create who bearer apiToken bindingLife life).hold link).2.sentWords =
        link.sentWords ++ sent.map Message.words := by
  rw [Session.hold_create, accepted, ← Session.message_errands, Session.writes_eq_inOrder]
  exact hold_inOrder (Session.sendable_errands accepted) link connected

/-- A revocation is one deletion, whose count is thrown away. -/
theorem hold_revoke (connected : link.outage = none) (who : Identity) :
    (Session.revoke who).hold link =
      ((((Command.delete [Key.session who]).hear (link.reply 0)).mapError
          (.cache (.deletingSession who))).map fun _ => (),
        link.after (.delete [Key.session who])) := by
  have sendable : (Command.delete [Key.session who]).Sendable := List.cons_ne_nil _ _
  rw [Session.revoke, Dialogue.hold_bind, hold_put connected sendable]
  cases (Command.delete [Key.session who]).hear (link.reply 0) with
  | ok count => rfl
  | error fault => rfl

/-- The revocation of an org lists its sessions and then, unless nothing is listed, deletes them. -/
theorem hold_revokeOrg (connected : link.outage = none) (org : Id) :
    (Session.revokeOrg org).hold link =
      match (Command.list (Key.orgPattern org)).hear (link.reply 0) with
      | .error fault =>
        (.error (.cache (.listingSessions org) fault), link.after (.list (Key.orgPattern org)))
      | .ok keys =>
        if keys = [] then (.ok 0, link.after (.list (Key.orgPattern org)))
        else
          (((Command.delete keys).hear (link.reply 1)).mapError (.cache (.deletingSessions org)),
            (link.after (.list (Key.orgPattern org))).after (.delete keys)) := by
  have listable : (Command.list (Key.orgPattern org)).Sendable := trivial
  rw [Session.revokeOrg, Dialogue.hold_bind]
  cases heard : (Command.list (Key.orgPattern org)).hear (link.reply 0) with
  | error fault => rw [hold_put_of_error connected listable heard]
  | ok keys =>
    rw [hold_put_of_ok connected listable heard]
    dsimp only
    by_cases nothing : keys = []
    · rw [if_pos nothing, nothing]
      rfl
    · -- The second command uses up the reply after the first.
      have sendable : (Command.delete keys).Sendable := nothing
      have still : (link.after (.list (Key.orgPattern org))).outage = none :=
        (after_outage ..).trans connected
      rw [if_neg nothing, if_neg (by simpa using nothing), hold_put still sendable, reply_after]

end Link

namespace Registrar

/-- Whatever the replies of the server are, a creation that is refused sends nothing, and any other
delivers its script; a revocation sends one deletion; and the revocation of an org sends a listing
and then, just if some keys are heard of, one deletion of these keys in their order. -/
theorem sends_in_order (registrar : Registrar Link) (connected : registrar.cache.outage = none) :
    (∀ who bearer apiToken life,
      (∀ failure,
        Session.refusal? who bearer apiToken registrar.bindingLife life = some failure →
        (registrar.serve (.create who bearer apiToken life)).1 = .error failure ∧
          registrar.Sends (.create who bearer apiToken life) []) ∧
      (Session.refusal? who bearer apiToken registrar.bindingLife life = none →
        ∃ sent,
          Delivered registrar.cache
            (Session.script who bearer apiToken registrar.bindingLife life)
            (registrar.serve (.create who bearer apiToken life)).1 sent ∧
          registrar.Sends (.create who bearer apiToken life) (sent.map Message.words))) ∧
    (∀ who,
      (registrar.serve (.revoke who)).1 =
        ((((Command.delete [Word.session who]).hear (registrar.cache.reply 0)).mapError
          (.cache (.deletingSession who))).map fun _ => ()) ∧
      registrar.Sends (.revoke who) [["DEL", Word.session who]]) ∧
    ∀ org,
      (∀ fault, (Command.list (Word.sessions org)).hear (registrar.cache.reply 0) = .error fault →
        (registrar.serve (.revokeOrg org)).1 = .error (.cache (.listingSessions org) fault) ∧
          registrar.Sends (.revokeOrg org) [["KEYS", Word.sessions org]]) ∧
      ((Command.list (Word.sessions org)).hear (registrar.cache.reply 0) = .ok [] →
        (registrar.serve (.revokeOrg org)).1 = .ok 0 ∧
          registrar.Sends (.revokeOrg org) [["KEYS", Word.sessions org]]) ∧
      (∀ keys, (Command.list (Word.sessions org)).hear (registrar.cache.reply 0) = .ok keys →
        keys ≠ [] →
        (registrar.serve (.revokeOrg org)).1 =
            ((Command.delete keys).hear (registrar.cache.reply 1)).mapError
              (.cache (.deletingSessions org)) ∧
          registrar.Sends (.revokeOrg org) [["KEYS", Word.sessions org], "DEL" :: keys]) := by
  refine ⟨fun who bearer apiToken life => ⟨fun failure refusal => ?_, fun accepted => ?_⟩,
    fun who => ?_, fun org => ?_⟩
  -- What is refused is refused before the first command, so the registrar is the same.
  · have refused : registrar.serve (.create who bearer apiToken life) =
        (.error failure, registrar) := by
      rw [serve, Request.dialogue, Session.hold_create, refusal]
    rw [Sends, refused, List.append_nil]
    exact ⟨rfl, rfl⟩
  · exact Link.hold_create connected accepted
  · rw [← Key.session_eq_word, Sends, serve, Request.dialogue, Link.hold_revoke connected]
    exact ⟨rfl, Link.sentWords_after ..⟩
  · rw [← Key.orgPattern_eq_word]
    -- The listing is heard first, and what is heard decides what follows.
    refine ⟨fun fault heard => ?_, fun heard => ?_, fun keys heard listed => ?_⟩
    · rw [Sends, serve, Request.dialogue, Link.hold_revokeOrg connected, heard]
      exact ⟨rfl, Link.sentWords_after ..⟩
    · rw [Sends, serve, Request.dialogue, Link.hold_revokeOrg connected, heard]
      exact ⟨rfl, Link.sentWords_after ..⟩
    · rw [Sends, serve, Request.dialogue, Link.hold_revokeOrg connected, heard]
      dsimp only
      rw [if_neg listed]
      simp [Command.words]

/-- The replies of a server that takes the binding of an API token and then no more writes. -/
def closing : List Reply :=
  [.status "OK", .integer 1, .error "READONLY replica", .integer 1]

/-- The replies of a server that lists two sessions of an org, and deletes one of them. -/
def emptying : List Reply :=
  [.array [.bulk "session:org:7:user:42", .bulk "session:org:7:user:-1"], .integer 1]

/-- Where the session is not written, three messages of the script are sent, and the failure names
the third. The sessions of an org are deleted in the order in which they are listed. -/
theorem sends_in_order_closing :
    (∃ sent,
      Delivered (.ofReplies closing) (Session.script ⟨7, 42⟩ "jwt" "api" .day (.ofSeconds 60))
        (.error (.cache (.writingSession ⟨7, 42⟩) (.signalled ⟨"READONLY", some "replica"⟩)))
        sent ∧
      sent.map Message.words =
        [["HMSET", "apiToken:api", "org", "7", "user", "42"],
          ["PEXPIRE", "apiToken:api", "86400000"],
          ["HMSET", "session:org:7:user:42", "org", "7", "user", "42", "jwt", "jwt",
            "apiToken", "api"]]) ∧
      (new (Link.ofReplies closing) none).Sends (.revoke ⟨7, 42⟩)
        [["DEL", "session:org:7:user:42"]] ∧
      ((new (Link.ofReplies emptying) none).serve (.revokeOrg 7)).1 = .ok (1 : Nat) ∧
      (new (Link.ofReplies emptying) none).Sends (.revokeOrg 7)
        [["KEYS", "session:org:7:user:*"],
          ["DEL", "session:org:7:user:42", "session:org:7:user:-1"]] := by
  obtain ⟨creations, revocations, -⟩ := sends_in_order (new (Link.ofReplies closing) none) rfl
  obtain ⟨-, -, emptied⟩ := sends_in_order (new (Link.ofReplies emptying) none) rfl
  obtain ⟨sent, delivered, words⟩ := (creations ⟨7, 42⟩ "jwt" "api" (.ofSeconds 60)).2 rfl
  obtain ⟨counted, orderly⟩ := (emptied 7).2.2 _ rfl (List.cons_ne_nil _ _)
  refine ⟨⟨sent, delivered, ?_⟩, (revocations ⟨7, 42⟩).2, counted, orderly⟩
  -- The link starts out with nothing sent, so what it has sent in the end are these messages.
  have told := (List.nil_append _).symm.trans words.symm
  rw [told]
  decide +kernel

end Registrar

end TenantSessions
