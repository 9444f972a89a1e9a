import TenantSessions.Proofs.Cache.Wire
import TenantSessions.Proofs.Repertoire

/-!
A server is faithful to a cache in memory if it does what that cache does and replies with what it
answers. Nobody who asks a registrar can then tell whether it reaches the server over a link or has
the cache in memory at hand.
-/

namespace TenantSessions

/-- A cache in memory performs, in their order, commands that it knows from their words, and what it
answers is told by the reply that is next in turn. -/
inductive Performs : Memory → List (List String) → (Nat → Reply) → Memory → Prop where
  | nil (memory : Memory) (replies : Nat → Reply) : Performs memory [] replies memory
  | cons {memory next left : Memory} {command : Command} {answer : command.Answer}
      {words : List String} {rest : List (List String)} {replies : Nat → Reply}
      (spelled : command.words = words)
      (answered : Cache.answer command memory = (.ok answer, next))
      (told : (replies 0).Tells command answer)
      (others : Performs next rest (fun place => replies (place + 1)) left) :
      Performs memory (words :: rest) replies left

/-- A cache that performs what it is told in the words of a command performs the command, answers
what is heard, and goes on with what it is told next. -/
theorem Performs.heard {memory left : Memory} {command : Command} {rest : List (List String)}
    {replies : Nat → Reply} (performed : Performs memory (command.words :: rest) replies left) :
    ∃ answer next, Cache.answer command memory = (.ok answer, next) ∧
      command.hear (replies 0) = .ok answer ∧
      Performs next rest (fun place => replies (place + 1)) left := by
  -- The command that the cache knows from the words need not be the one that was put.
  cases performed with
  | cons spelled answered told others =>
    obtain ⟨answer, same, heard⟩ := Memory.answer_of_words spelled answered told
    exact ⟨answer, _, same, heard.hear, others⟩

namespace Link

variable {α : Type} {dialogue : Dialogue α} {link : Link}

/-- If a cache in memory performs what a dialogue puts over a link and is told of by the replies,
the dialogue ends with the cache as it does over the link. -/
theorem hold_of_performs (puts : dialogue.Puts Command.Sendable) (connected : link.outage = none)
    {memory left : Memory}
    (performed :
      Performs memory ((dialogue.transcript link).map (·.command.words)) link.reply left) :
    dialogue.hold memory = ((dialogue.hold link).1, left) := by
  -- What the cache answers is heard over the link, so both go on with the same answer.
  induction puts generalizing link memory with
  | done => cases performed; rfl
  | fail => cases performed; rfl
  | @ask command stage next sendable _ ih =>
    have sent := answer_eq connected sendable
    have replies : (fun place => link.reply (place + 1)) = (link.after command).reply :=
      funext fun place => (reply_after link command place).symm
    rw [Dialogue.transcript, sent] at performed
    rw [Dialogue.hold, Dialogue.hold, sent]
    cases told : command.hear (link.reply 0) with
    | error fault =>
      -- An answer that is told is heard, so no fault comes of the reply.
      rw [told] at performed
      obtain ⟨answer, later, -, heard, -⟩ := performed.heard
      rw [told] at heard
      cases heard
    | ok answer =>
      rw [told] at performed
      obtain ⟨known, later, answered, heard, others⟩ := performed.heard
      rw [told] at heard
      cases heard
      rw [answered]
      rw [replies] at others
      exact ih answer ((after_outage link command).trans connected) others

end Link

namespace Registrar

/-- A registrar over a link is a desk; the link has no clock, and time passes for the server. -/
instance : Desk (Registrar Link) where
  serve := Registrar.serve
  reopen := Registrar.reopen
  pass? registrar _ := some registrar

/-- A registrar like one over a link that has a cache in memory at hand. -/
def upon (registrar : Registrar Link) (memory : Memory) : Registrar Memory where
  cache := memory
  bindingLife := registrar.bindingLife

/-- The server that a registrar reaches is faithful, while a script of events happens, to a cache in
memory that ends up as another: the cache performs what is sent for each request and is told of by
the replies, and its clock goes on as time passes. -/
inductive Faithful : Registrar Link → Memory → List Event → Memory → Prop where
  | done (registrar : Registrar Link) (memory : Memory) : Faithful registrar memory [] memory
  | serve {registrar : Registrar Link} {memory next final : Memory} {request : Request}
      {script : List Event} {words : List (List String)} (sent : registrar.Sends request words)
      (performed : Performs memory words registrar.cache.reply next)
      (rest : Faithful (registrar.serve request).2 next script final) :
      Faithful registrar memory (.serve request :: script) final
  | reopen {registrar : Registrar Link} {memory final : Memory} {bindingLife : Option Lifetime}
      {script : List Event} (rest : Faithful (registrar.reopen bindingLife) memory script final) :
      Faithful registrar memory (.reopen bindingLife :: script) final
  | pass {registrar : Registrar Link} {memory next final : Memory} {span : Lifetime}
      {script : List Event} (advanced : memory.advance? span = some next)
      (rest : Faithful registrar next script final) :
      Faithful registrar memory (.pass span :: script) final

/-- A request that is performed and told of is served as it is over the cache in memory. -/
theorem serve_upon {registrar : Registrar Link} (connected : registrar.cache.outage = none)
    {memory next : Memory} {request : Request} {words : List (List String)}
    (sent : registrar.Sends request words)
    (performed : Performs memory words registrar.cache.reply next) :
    (registrar.upon memory).serve request =
        ((registrar.serve request).1, (registrar.serve request).2.upon next) ∧
      (registrar.serve request).2.cache.outage = none := by
  have puts := request.dialogue_puts registrar.bindingLife
  obtain ⟨told, still⟩ := Link.sentWords_hold puts connected
  -- What is sent is what the dialogue puts.
  have same : words =
      ((request.dialogue registrar.bindingLife).transcript registrar.cache).map
        (·.command.words) :=
    List.append_cancel_left (sent.symm.trans told)
  rw [same] at performed
  have held := Link.hold_of_performs puts connected performed
  refine ⟨?_, still⟩
  rw [serve, upon, held]
  rfl

/-- Whatever requests are served while time passes, a registrar over a link to a server that is
faithful to a cache in memory answers as the registrar does that has the cache at hand, and what the
sent commands make of the cache is what the other registrar makes of it. -/
theorem answers_of_faithful {registrar : Registrar Link} {memory final : Memory}
    {script : List Event} (connected : registrar.cache.outage = none)
    (faithful : Faithful registrar memory script final) :
    Desk.answers registrar script = Desk.answers (registrar.upon memory) script ∧
      ∃ reached, (registrar.upon memory).undergoAll? (script.map .event) = some reached ∧
        reached.cache = final := by
  -- Each event is answered alike and leaves a server that is faithful to what the cache becomes.
  induction faithful with
  | done registrar memory => exact ⟨rfl, registrar.upon memory, rfl, rfl⟩
  | @serve registrar memory next final request script words sent performed rest ih =>
    -- The request is served alike, and the link stays up for the requests behind it.
    obtain ⟨served, still⟩ := serve_upon connected sent performed
    obtain ⟨answers, reached, undergone, same⟩ := ih still
    refine ⟨?_, reached, ?_, same⟩
    · rw [Desk.answers, Desk.answers]
      show _ = .served request ((registrar.upon memory).serve request).1 ::
        Desk.answers ((registrar.upon memory).serve request).2 script
      rw [served, ← answers]
      rfl
    · rw [List.map_cons, undergoAll?, undergo?, served]
      exact undergone
  | @reopen registrar memory final bindingLife script rest ih =>
    obtain ⟨answers, reached, undergone, same⟩ := ih connected
    refine ⟨?_, reached, undergone, same⟩
    exact congrArg (Response.reopened :: ·) answers
  | @pass registrar memory next final span script advanced rest ih =>
    obtain ⟨answers, reached, undergone, same⟩ := ih connected
    -- Over the link time passes unnoticed, and in memory it moves the clock alone.
    have passed : Desk.pass? (registrar.upon memory) span = some (registrar.upon next) := by
      show (memory.advance? span).map _ = _
      rw [advanced]
      rfl
    refine ⟨?_, reached, ?_, same⟩
    · rw [Desk.answers, Desk.answers, passed]
      exact congrArg (Response.passed :: ·) answers
    · rw [List.map_cons, undergoAll?, undergo?, passed]
      exact undergone

/-- A script in which a session is opened with both tokens, found by its API token when a second has
passed, and revoked. -/
def visit : List Event :=
  [.serve (.create ⟨7, 42⟩ "jwt" "api" (.ofSeconds 60)), .pass (.ofSeconds 1),
    .serve (.resolve "api"), .serve (.revoke ⟨7, 42⟩)]

/-- What a server that starts out empty replies in the course of the visit. -/
def visited : List Reply :=
  [.status "OK", .integer 1, .status "OK", .integer 1,
    .array [.bulk "org", .bulk "7", .bulk "user", .bulk "42"], .integer 1, .bulk "api",
    .integer 1]

/-- The fields of the session that is opened in the course of the visit. -/
def visitor : List (String × String) :=
  [("org", "7"), ("user", "42"), ("jwt", "jwt"), ("apiToken", "api")]

/-- A cache in memory when the API token of the visit has been bound. -/
def bound : Memory :=
  (Memory.empty.write "apiToken:api" (visitor.take 2)).setDeadline "apiToken:api"
    (Lifetime.day.overAt Instant.setUp)

/-- The cache in memory when the session of the visit has been opened. -/
def opened : Memory :=
  (bound.write "session:org:7:user:42" visitor).setDeadline "session:org:7:user:42"
    ((Lifetime.ofSeconds 60).overAt Instant.setUp)

/-- The replies to the visit are those of a server that is faithful to an empty cache. -/
theorem faithful_visit :
    ∃ final, Faithful (.new (.ofReplies visited) none) Memory.empty visit final := by
  -- The binding is written and limited, and then the session.
  have bindingWritten : Cache.answer (.write "apiToken:api" (visitor.take 2)) Memory.empty =
      (.ok (), Memory.empty.write "apiToken:api" (visitor.take 2)) := rfl
  have bindingLimited : Cache.answer (.expire "apiToken:api" .day)
      (Memory.empty.write "apiToken:api" (visitor.take 2)) = (.ok (), bound) :=
    Memory.answer_expire_iff.mpr ⟨by decide, by decide, by decide, rfl⟩
  have written : Cache.answer (.write "session:org:7:user:42" visitor) bound =
      (.ok (), bound.write "session:org:7:user:42" visitor) := rfl
  have limited : Cache.answer (.expire "session:org:7:user:42" (.ofSeconds 60))
      (bound.write "session:org:7:user:42" visitor) = (.ok (), opened) :=
    Memory.answer_expire_iff.mpr ⟨by decide, by decide, by decide, rfl⟩
  have opening : Performs Memory.empty
      [["HMSET", "apiToken:api", "org", "7", "user", "42"],
        ["PEXPIRE", "apiToken:api", "86400000"],
        ["HMSET", "session:org:7:user:42", "org", "7", "user", "42", "jwt", "jwt", "apiToken",
          "api"],
        ["PEXPIRE", "session:org:7:user:42", "60000"]]
      (Link.ofReplies visited).reply opened :=
    .cons rfl bindingWritten (.write ..) (.cons rfl bindingLimited (.expire _ _ 1)
      (.cons rfl written (.write ..) (.cons rfl limited (.expire _ _ 1) (.nil ..))))
  -- A second later both are there.
  let later : Memory := { opened with now := Instant.setUp + (Lifetime.ofSeconds 1).nanos }
  have passed : opened.advance? (.ofSeconds 1) = some later := by
    rw [Memory.advance?]
    exact if_pos (by decide)
  have found : Cache.answer (.readAll "apiToken:api") later =
      (.ok (.ofPairs (visitor.take 2)), later) := rfl
  have there : Cache.answer (.present "session:org:7:user:42") later = (.ok true, later) := rfl
  have held : Cache.answer (.read "session:org:7:user:42" "apiToken") later =
      (.ok (some "api"), later) := rfl
  have looking : Performs later
      [["HGETALL", "apiToken:api"], ["EXISTS", "session:org:7:user:42"],
        ["HGET", "session:org:7:user:42", "apiToken"]]
      (fun place => (Link.ofReplies visited).reply (place + 4)) later :=
    .cons rfl found (.readAll _ (visitor.take 2))
      (.cons rfl there (.present _ true) (.cons rfl held (.found _ _ "api") (.nil ..)))
  have deleted : Cache.answer (.delete ["session:org:7:user:42"]) later =
      (.ok (1 : Nat), (later.delete ["session:org:7:user:42"]).2) := rfl
  have revoking : Performs later [["DEL", "session:org:7:user:42"]]
      (fun place => (Link.ofReplies visited).reply (place + 7))
      (later.delete ["session:org:7:user:42"]).2 :=
    .cons rfl deleted (.delete _ rfl) (.nil ..)
  exact ⟨_, .serve rfl opening
    (.pass passed (.serve rfl looking (.serve rfl revoking (.done ..))))⟩

/-- Over the link the visit is answered as with the cache in memory. -/
theorem answers_of_faithful_visit : ∃ final,
    (Registrar.new (Link.ofReplies visited) none).cache.outage = none ∧
      Faithful (.new (.ofReplies visited) none) Memory.empty visit final ∧
      Desk.answers (Registrar.new (Link.ofReplies visited) none) visit =
        Desk.answers (Registrar.new Memory.empty none) visit ∧
      ∃ reached, (Registrar.new Memory.empty none).undergoAll? (visit.map .event) = some reached ∧
        reached.cache = final := by
  obtain ⟨final, faithful⟩ := faithful_visit
  obtain ⟨answers, undergone⟩ := answers_of_faithful rfl faithful
  exact ⟨final, rfl, faithful, answers, undergone⟩

end Registrar

end TenantSessions
