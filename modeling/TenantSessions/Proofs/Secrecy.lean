import TenantSessions.Proofs.Repertoire

/-!
Tokens are told to nobody but the cache. Two creations that differ in their tokens alone are
answered and logged alike, and two checks of different tokens log nothing and are answered alike but
for the verdict.
-/

namespace TenantSessions

namespace Key

/-- The name of a binding is shown without its token. -/
theorem redact_apiToken (token : String) : redact (apiToken token) = tokenMark ++ "<redacted>" := by
  have marked : tokenMark.toList.isPrefixOf (apiToken token).toList = true := by
    rw [apiToken, String.toList_append, List.isPrefixOf_iff_prefix]
    exact List.prefix_append ..
  rw [redact, if_pos marked]

end Key

/-- A session has as many fields as another if the same of its tokens are missing. -/
theorem Grant.length_fields {who : Identity} {bearer other apiToken otherToken : String}
    (bearers : bearer = "" ↔ other = "") (tokens : apiToken = "" ↔ otherToken = "") :
    (Grant.ofTokens who bearer apiToken).fields.length =
      (Grant.ofTokens who other otherToken).fields.length := by
  -- Only the number of tokens counts.
  have missing {token another : String} (same : token = "" ↔ another = "") :
      (Grant.token? token).toList.length = (Grant.token? another).toList.length := by
    unfold Grant.token?
    by_cases empty : token = ""
    · rw [if_pos empty, if_pos (same.mp empty)]
    · rw [if_neg empty, if_neg (mt same.mpr empty)]
      rfl
  simp [Grant.fields, Grant.ofTokens, missing bearers, missing tokens]

namespace Dialogue

variable {σ α β : Type} [Cache σ] {alike : σ → σ → Prop}

/-- Whether two dialogues end alike and leave alike what was alike before. -/
def Alike (alike : σ → σ → Prop) (first second : Dialogue α) : Prop :=
  ∀ before other, alike before other →
    (first.hold before).1 = (second.hold other).1 ∧
      alike (first.hold before).2 (second.hold other).2

/-- What ends at once ends alike. -/
theorem Alike.ofExcept (result : Except Failure α) :
    Alike alike (Dialogue.ofExcept result) (Dialogue.ofExcept result) := by
  intro before other start
  rw [hold_ofExcept, hold_ofExcept]
  exact ⟨rfl, start⟩

/-- Dialogues that begin alike both fail there, or go on with one value from states that are alike.
-/
theorem Alike.hold_bind_cases {first second : Dialogue α} (opening : Alike alike first second)
    (follow otherFollow : α → Dialogue β) {before other : σ} (start : alike before other) :
    (∃ failure left otherLeft, alike left otherLeft ∧
      (first >>= follow).hold before = (.error failure, left) ∧
      (second >>= otherFollow).hold other = (.error failure, otherLeft)) ∨
    ∃ value left otherLeft, alike left otherLeft ∧
      (first >>= follow).hold before = (follow value).hold left ∧
      (second >>= otherFollow).hold other = (otherFollow value).hold otherLeft := by
  obtain ⟨answers, same⟩ := opening before other start
  rw [hold_bind, hold_bind]
  -- The two openings answer the same, so it is enough to look at one of the answers.
  cases ended : first.hold before with
  | mk answer left =>
    cases otherEnded : second.hold other with
    | mk otherAnswer otherLeft =>
      rw [ended, otherEnded] at answers same
      cases answers
      cases answer with
      | ok value => exact .inr ⟨value, left, otherLeft, same, rfl, rfl⟩
      | error failure => exact .inl ⟨failure, left, otherLeft, same, rfl, rfl⟩

/-- Dialogues that are alike part by part are alike. -/
theorem Alike.bind {first second : Dialogue α} (opening : Alike alike first second)
    {follow otherFollow : α → Dialogue β}
    (rest : ∀ value, Alike alike (follow value) (otherFollow value)) :
    Alike alike (first >>= follow) (second >>= otherFollow) := by
  intro before other start
  rcases opening.hold_bind_cases follow otherFollow start with
    ⟨failure, left, otherLeft, same, failed, otherFailed⟩ |
    ⟨value, left, otherLeft, same, wentOn, otherWentOn⟩
  · rw [failed, otherFailed]
    exact ⟨rfl, same⟩
  · rw [wentOn, otherWentOn]
    exact rest value left otherLeft same

end Dialogue

/-- A likeness of states that tokens do not disturb: writes of as many fields under keys that are
shown alike end alike, and so do limits of such keys to one of the lifetimes that are asked for. -/
structure Oblivious {σ : Type} [Cache σ] (alike : σ → σ → Prop) (asked : List Lifetime) : Prop
    where
  write : ∀ {key other : String} {pairs others : List (String × String)},
    Key.redact key = Key.redact other → pairs.length = others.length → ∀ stage,
      Dialogue.Alike alike (Dialogue.put (.write key pairs) stage)
        (Dialogue.put (.write other others) stage)
  expire : ∀ {key other : String} {life : Lifetime},
    Key.redact key = Key.redact other → life ∈ asked → ∀ stage,
      Dialogue.Alike alike (Dialogue.put (.expire key life) stage)
        (Dialogue.put (.expire other life) stage)

namespace Session

/-- The lifetimes that a creation asks for. -/
def asked (apiToken : String) (bindingLife life : Lifetime) : List Lifetime :=
  if apiToken = "" then [life] else [bindingLife, life]

section Creation

variable {bearer other apiToken otherToken : String}

/-- Why a creation is refused depends only on which of its tokens are missing. -/
theorem refusal?_congr (bearers : bearer = "" ↔ other = "")
    (tokens : apiToken = "" ↔ otherToken = "") (who : Identity) (bindingLife life : Lifetime) :
    refusal? who bearer apiToken bindingLife life =
      refusal? who other otherToken bindingLife life := by
  simp only [refusal?, bearers, tokens, ne_eq]

/-- Creations that differ in their tokens alone are alike wherever tokens do not disturb the
likeness. -/
theorem create_alike {σ : Type} [Cache σ] {alike : σ → σ → Prop} {bindingLife life : Lifetime}
    (oblivious : Oblivious alike (asked apiToken bindingLife life))
    (bearers : bearer = "" ↔ other = "") (tokens : apiToken = "" ↔ otherToken = "")
    (who : Identity) :
    Dialogue.Alike alike (create who bearer apiToken bindingLife life)
      (create who other otherToken bindingLife life) := by
  -- The session is written and limited under the same key, with as many fields.
  have kept : Dialogue.Alike alike (keep (.ofTokens who bearer apiToken) life)
      (keep (.ofTokens who other otherToken) life) := by
    have lasting : life ∈ asked apiToken bindingLife life := by
      rw [asked]
      split <;> simp
    exact (oblivious.write rfl (Grant.length_fields bearers tokens) _).bind fun _ =>
      oblivious.expire rfl lasting _
  rw [create_eq, create_eq, refusal?_congr bearers tokens]
  -- Both creations are refused for one reason, or both go on to their writes.
  cases refusal? who other otherToken bindingLife life with
  | some failure => exact .ofExcept (.error failure)
  | none =>
    show Dialogue.Alike alike (writes who bearer apiToken bindingLife life)
      (writes who other otherToken bindingLife life)
    unfold writes
    by_cases missing : apiToken = ""
    · rw [if_pos missing, if_pos (tokens.mp missing)]
      exact kept
    · rw [if_neg missing, if_neg (mt tokens.mpr missing)]
      -- A binding is shown by what all bindings have in common.
      have shown : Key.redact (Key.apiToken apiToken) = Key.redact (Key.apiToken otherToken) :=
        (Key.redact_apiToken apiToken).trans (Key.redact_apiToken otherToken).symm
      have binding : bindingLife ∈ asked apiToken bindingLife life := by
        rw [asked, if_neg missing]
        exact List.mem_cons_self
      exact ((oblivious.write shown rfl _).bind fun _ => oblivious.expire shown binding _).bind
        fun _ => kept

end Creation

end Session

/-- Whether two links differ at most in what has been sent over them, which is for the server alone.
-/
structure Link.Alike (first second : Link) : Prop where
  outage : first.outage = second.outage
  replies : first.replies = second.replies
  log : first.log = second.log

namespace Link

variable {first second : Link}

/-- Links stay alike when commands are sent of which the log tells the same. -/
theorem Alike.after (same : first.Alike second) {command other : Command}
    (logged : command.logEvent? = other.logEvent?) :
    (first.after command).Alike (second.after other) where
  outage := same.outage
  replies := congrArg List.tail same.replies
  log := by
    show first.log ++ command.logEvent?.toList = second.log ++ other.logEvent?.toList
    rw [same.log, logged]

/-- Links stay alike when commands are transacted of which the log tells the same. -/
theorem Alike.transact (same : first.Alike second) {command other : Command}
    (logged : command.logEvent? = other.logEvent?) :
    (first.transact command).2.Alike (second.transact other).2 := by
  cases connected : first.outage with
  | some cause =>
    have down : second.outage = some cause := same.outage.symm.trans connected
    rw [Link.transact, Link.transact, connected, down]
    exact same
  | none =>
    have up : second.outage = none := same.outage.symm.trans connected
    rw [transact_eq connected, transact_eq up]
    exact same.after logged

/-- What a link answers to a command that it transacts. -/
def verdict (link : Link) (command : Command) : Except Fault command.Answer :=
  match link.outage with
  | some cause => .error (.outage cause)
  | none => command.hear (link.reply 0)

/-- A command that is transacted is answered by the verdict. -/
theorem transact_fst (link : Link) (command : Command) :
    (link.transact command).1 = link.verdict command := by
  rw [verdict]
  cases connected : link.outage with
  | some cause => rw [Link.transact, connected]
  | none => rw [transact_eq connected]

/-- A command that is transacted over one of two links that are alike is answered by the verdict of
the other. -/
theorem Alike.transact_fst (same : first.Alike second) (command : Command) :
    (first.transact command).1 = second.verdict command := by
  rw [Link.transact_fst, verdict, verdict, same.outage, reply, reply, same.replies]

/-- Links know nothing of a token but what is sent. -/
theorem oblivious (asked : List Lifetime) : Oblivious Link.Alike asked where
  write := by
    intro key otherKey pairs otherPairs shown sizes stage before other same
    have logged : (Command.write key pairs).logEvent? =
        (Command.write otherKey otherPairs).logEvent? := by
      simp only [Command.logEvent?, shown, sizes]
    -- The verdict on a write does not look at what is written.
    have answers :=
      calc (before.transact (.write key pairs)).1
        _ = other.verdict (.write key pairs) := same.transact_fst _
        _ = other.verdict (.write otherKey otherPairs) := rfl
        _ = (other.transact (.write otherKey otherPairs)).1 := (other.transact_fst _).symm
    rw [Dialogue.hold_put, Dialogue.hold_put]
    exact ⟨congrArg (Except.mapError _) answers, same.transact logged⟩
  expire := by
    intro key otherKey life shown among stage before other same
    have logged : (Command.expire key life).logEvent? =
        (Command.expire otherKey life).logEvent? := by
      simp only [Command.logEvent?, shown]
    have answers :=
      calc (before.transact (.expire key life)).1
        _ = other.verdict (.expire key life) := same.transact_fst _
        _ = other.verdict (.expire otherKey life) := rfl
        _ = (other.transact (.expire otherKey life)).1 := (other.transact_fst _).symm
    have performed (link : Link) (key : String) : Cache.answer (.expire key life) link =
        link.perform (.expire key life) := rfl
    rw [Dialogue.hold_put, Dialogue.hold_put, performed, performed, perform, perform]
    -- A lifetime that is too long is refused before connecting.
    cases life.expiry with
    | ok _ => exact ⟨congrArg (Except.mapError _) answers, same.transact logged⟩
    | error fault => exact ⟨rfl, same⟩

/-- Over links that are alike the fields of two keys are read alike. -/
theorem alike_readAll (key otherKey : String) (stage : Stage) :
    Dialogue.Alike Link.Alike (Dialogue.put (.readAll key) stage)
      (Dialogue.put (.readAll otherKey) stage) := by
  intro before other same
  -- Which key is read is no part of the verdict, and not logged.
  have answers :=
    calc (before.transact (.readAll key)).1
      _ = other.verdict (.readAll key) := same.transact_fst _
      _ = other.verdict (.readAll otherKey) := rfl
      _ = (other.transact (.readAll otherKey)).1 := (other.transact_fst _).symm
  rw [Dialogue.hold_put, Dialogue.hold_put]
  exact ⟨congrArg (Except.mapError _) answers, same.transact rfl⟩

/-- Over links that are alike a read is put alike. -/
theorem alike_read {command : Command} (reads : command.Reads) (stage : Stage) :
    Dialogue.Alike Link.Alike (Dialogue.put command stage) (Dialogue.put command stage) := by
  intro before other same
  obtain ⟨-, -, sent⟩ := reads.plain
  have answers := (same.transact_fst command).trans (other.transact_fst command).symm
  rw [Dialogue.hold_put, Dialogue.hold_put, sent, sent]
  exact ⟨congrArg (Except.mapError _) answers, same.transact rfl⟩

end Link

/-- What is answered to two tokens of which at most one gets in: the other is turned down then, and
any other failure is that of both. -/
inductive AtMostOneIn {α : Type} : Except Failure α → Except Failure α → Prop where
  | neither (failure : Failure) : AtMostOneIn (.error failure) (.error failure)
  | first (value : α) : AtMostOneIn (.ok value) (.error .invalidSession)
  | second (value : α) : AtMostOneIn (.error .invalidSession) (.ok value)

namespace Dialogue

variable {σ α β : Type} [Cache σ] {alike : σ → σ → Prop}

/-- Whether of two dialogues at most one gets in where they begin alike. -/
def Rivals (alike : σ → σ → Prop) (first second : Dialogue α) : Prop :=
  ∀ before other, alike before other → AtMostOneIn (first.hold before).1 (second.hold other).1

/-- Dialogues that begin alike are rivals if they go on as rivals. -/
theorem Rivals.bind {first second : Dialogue α} (opening : Alike alike first second)
    {follow otherFollow : α → Dialogue β}
    (rest : ∀ value, Rivals alike (follow value) (otherFollow value)) :
    Rivals alike (first >>= follow) (second >>= otherFollow) := by
  intro before other start
  rcases opening.hold_bind_cases follow otherFollow start with
    ⟨failure, left, otherLeft, -, failed, otherFailed⟩ |
    ⟨value, left, otherLeft, same, wentOn, otherWentOn⟩
  · rw [failed, otherFailed]
    exact .neither failure
  · rw [wentOn, otherWentOn]
    exact rest value left otherLeft same

/-- Rivals stay rivals when whoever gets in is told something. -/
theorem Rivals.told {first second : Dialogue α} (rivals : Rivals alike first second) (value : β) :
    Rivals alike (first >>= fun _ => .done value) (second >>= fun _ => .done value) := by
  intro before other start
  have contest := rivals before other start
  rw [hold_bind, hold_bind]
  -- What is told is known beforehand, so it tells nothing of the token.
  cases ended : first.hold before with
  | mk answer left =>
    cases otherEnded : second.hold other with
    | mk otherAnswer otherLeft =>
      rw [ended, otherEnded] at contest
      cases contest with
      | neither failure => exact .neither failure
      | first _ => exact .first value
      | second _ => exact .second value

end Dialogue

namespace Session

/-- Of two tokens that differ a session confirms at most one. -/
theorem rivals_confirm {presented other : String} (different : presented ≠ other) (who : Identity)
    (field : String) :
    Dialogue.Rivals Link.Alike (confirm who field presented) (confirm who field other) := by
  have asking : (Command.present (Key.session who)).Reads := trivial
  have reading : (Command.read (Key.session who) field).Reads := trivial
  refine .bind (Link.alike_read asking _) fun present => ?_
  cases present with
  | false => exact fun _ _ _ => .neither _
  | true =>
    refine .bind (Link.alike_read reading _) fun stored => ?_
    show Dialogue.Rivals Link.Alike (if agrees stored presented then _ else _)
      (if agrees stored other then _ else _)
    -- What is stored agrees with one token only.
    by_cases agreed : agrees stored presented = true
    · have disagreed : ¬ agrees stored other = true := by
        intro again
        have first := ((agrees_iff ..).mp agreed).1
        have second := ((agrees_iff ..).mp again).1
        exact different (Option.some.inj (first.symm.trans second))
      rw [if_pos agreed, if_neg disagreed]
      exact fun _ _ _ => .first ()
    · rw [if_neg agreed]
      split
      · exact fun _ _ _ => .second ()
      · exact fun _ _ _ => .neither _

/-- Of two bearer tokens that differ at most one gets in. -/
theorem rivals_checkBearer {bearer other : String} (present : bearer ≠ "")
    (otherPresent : other ≠ "") (different : bearer ≠ other) (who : Identity) :
    Dialogue.Rivals Link.Alike (checkBearer who bearer) (checkBearer who other) := by
  have required : require who bearer "" = require who other "" := by
    simp [require, present, otherPresent]
  rw [checkBearer, checkBearer, required]
  exact .bind (.ofExcept _) fun _ => rivals_confirm different who Record.bearer

/-- Of two API tokens that differ at most one gets in. -/
theorem rivals_resolve {apiToken other : String} (present : apiToken ≠ "")
    (otherPresent : other ≠ "") (different : apiToken ≠ other) :
    Dialogue.Rivals Link.Alike (resolve apiToken) (resolve other) := by
  rw [resolve, if_neg present, resolve, if_neg otherPresent]
  -- The bindings lie under different keys, but the same is heard of them.
  have read := Link.alike_readAll (Key.apiToken apiToken) (Key.apiToken other) .readingBinding
  refine .bind read fun fields => ?_
  show Dialogue.Rivals Link.Alike (if fields.isEmpty then _ else _)
    (if fields.isEmpty then _ else _)
  split
  · exact fun _ _ _ => .neither _
  · exact .bind (.ofExcept _) fun who => (rivals_confirm different who Record.apiToken).told who

end Session

/-- Whether two caches fail alike at what a creation puts, whatever they keep: commands of the same
kinds are made to fail, and the clocks can name the ends of the same of the lifetimes that are asked
for. -/
structure Punctual.Alike (asked : List Lifetime) (first second : Punctual) : Prop where
  failing : ∀ kind, kind ∈ first.failing ↔ kind ∈ second.failing
  named : ∀ life ∈ asked,
    life.overAt first.now ≤ Instant.horizon ↔ life.overAt second.now ≤ Instant.horizon

/-- Caches know nothing of a token but what they keep. -/
theorem Punctual.oblivious (asked : List Lifetime) : Oblivious (Punctual.Alike asked) asked where
  write := by
    intro key other pairs others _ _ stage before otherBefore same
    -- A write fails just where writes are made to fail.
    by_cases outage : Command.Kind.write ∈ before.failing
    · have otherOutage := (same.failing _).mp outage
      rw [hold_put_of_failing outage, hold_put_of_failing otherOutage]
      exact ⟨rfl, same⟩
    · have sound := mt (same.failing _).mpr outage
      rw [hold_put_of_ok outage rfl, hold_put_of_ok sound rfl]
      exact ⟨rfl, same.failing, same.named⟩
  expire := by
    intro key other life _ among stage before otherBefore same
    by_cases outage : Command.Kind.expire ∈ before.failing
    · have otherOutage := (same.failing _).mp outage
      rw [hold_put_of_failing outage, hold_put_of_failing otherOutage]
      exact ⟨rfl, same⟩
    · have sound := mt (same.failing _).mpr outage
      have performed {shelf : Punctual} (unfailing : Command.Kind.expire ∉ shelf.failing)
          (key : String) : Cache.answer (.expire key life) shelf = shelf.expire key life :=
        if_neg unfailing
      rw [Dialogue.hold_put, Dialogue.hold_put, performed outage, performed sound, expire, expire]
      by_cases long : Lifetime.maxMillis < life.millis
      · rw [if_pos long, if_pos long]
        exact ⟨rfl, same⟩
      rw [if_neg long, if_neg long]
      -- The clocks can both name the end of the lifetime, or neither can.
      by_cases named : life.overAt before.now ≤ Instant.horizon
      · rw [if_neg (Nat.not_lt.mpr named),
          if_neg (Nat.not_lt.mpr ((same.named life among).mp named))]
        refine ⟨rfl, ?_, ?_⟩
        · simpa using same.failing
        · simpa using same.named
      · rw [if_pos (Nat.not_le.mp named),
          if_pos (Nat.not_le.mp (mt (same.named life among).mpr named))]
        exact ⟨rfl, same⟩

namespace Registrar

/-- Tokens are told to nobody but the cache. Two creations over links that differ at most in what
has been sent, which ask for the same but for their tokens and miss the same of these, are answered
alike and leave links that again differ at most in what has been sent, so that they log the same.
Two checks over such links that present different tokens log nothing, and at most one of the tokens
gets in, the other being turned down. Two creations over caches in memory of which the same kinds of
commands are made to fail, and whose clocks can name the ends of the same of the lifetimes that are
asked for, are answered alike whatever the caches keep. -/
theorem tokens_undisclosed :
    (∀ first second : Registrar Link, first.cache.Alike second.cache →
      (first.bindingLife = second.bindingLife →
        ∀ who life {bearer other apiToken otherToken : String}, (bearer = "" ↔ other = "") →
          (apiToken = "" ↔ otherToken = "") →
          (first.serve (.create who bearer apiToken life)).1 =
              (second.serve (.create who other otherToken life)).1 ∧
            (first.serve (.create who bearer apiToken life)).2.cache.Alike
              (second.serve (.create who other otherToken life)).2.cache) ∧
      (∀ who {bearer other : String}, bearer ≠ "" → other ≠ "" → bearer ≠ other →
        AtMostOneIn (first.serve (.checkBearer who bearer)).1
            (second.serve (.checkBearer who other)).1 ∧
          (first.serve (.checkBearer who bearer)).2.cache.log = first.cache.log ∧
          (second.serve (.checkBearer who other)).2.cache.log = second.cache.log) ∧
      ∀ {apiToken other : String}, apiToken ≠ "" → other ≠ "" → apiToken ≠ other →
        AtMostOneIn (first.serve (.resolve apiToken)).1 (second.serve (.resolve other)).1 ∧
          (first.serve (.resolve apiToken)).2.cache.log = first.cache.log ∧
          (second.serve (.resolve other)).2.cache.log = second.cache.log) ∧
    ∀ first second : Registrar Memory, first.bindingLife = second.bindingLife →
      (∀ kind, kind ∈ first.cache.failing ↔ kind ∈ second.cache.failing) →
      ∀ who life {bearer other apiToken otherToken : String}, (bearer = "" ↔ other = "") →
        (apiToken = "" ↔ otherToken = "") →
        (∀ asked ∈ Session.asked apiToken first.bindingLife life,
          asked.overAt first.cache.now ≤ Instant.horizon ↔
            asked.overAt second.cache.now ≤ Instant.horizon) →
        (first.serve (.create who bearer apiToken life)).1 =
          (second.serve (.create who other otherToken life)).1 := by
  refine ⟨fun first second same => ⟨?_, ?_, ?_⟩, ?_⟩
  · intro binding who life bearer other apiToken otherToken bearers tokens
    have alike : Dialogue.Alike Link.Alike
        (Session.create who bearer apiToken first.bindingLife life)
        (Session.create who other otherToken first.bindingLife life) :=
      Session.create_alike (Link.oblivious _) bearers tokens who
    rw [serve, serve, Request.dialogue, Request.dialogue, ← binding]
    exact alike first.cache second.cache same
  · intro who bearer other present otherPresent different
    exact ⟨Session.rivals_checkBearer present otherPresent different who _ _ same,
      Link.log_hold (Session.checkBearer_puts who bearer) _,
      Link.log_hold (Session.checkBearer_puts who other) _⟩
  · intro apiToken other present otherPresent different
    exact ⟨Session.rivals_resolve present otherPresent different _ _ same,
      Link.log_hold (Session.resolve_puts apiToken) _,
      Link.log_hold (Session.resolve_puts other) _⟩
  · intro first second binding failing who life bearer other apiToken otherToken bearers tokens
      named
    have same : Punctual.Alike (Session.asked apiToken first.bindingLife life) first.shelf
      second.shelf := ⟨failing, named⟩
    have alike : Dialogue.Alike (Punctual.Alike (Session.asked apiToken first.bindingLife life))
        (Session.create who bearer apiToken first.bindingLife life)
        (Session.create who other otherToken first.bindingLife life) :=
      Session.create_alike (Punctual.oblivious _) bearers tokens who
    -- Both registrars serve as they would over the punctual caches.
    have held := first.hold_serve (.create who bearer apiToken life)
    have otherHeld := second.hold_serve (.create who other otherToken life)
    rw [Request.dialogue] at held otherHeld
    have answers := (alike _ _ same).1
    rw [held, binding, otherHeld] at answers
    exact answers

/-- A cache whose clock has nearly come to its end. -/
def late : Memory :=
  { Memory.empty with now := 9223372036000086400000000000 }

/-- A creation may be answered differently over caches whose clocks differ: a lifetime that ends in
time on one of them ends too late on the other. -/
theorem creations_told_apart :
    ¬ ∀ first second : Registrar Memory, first.bindingLife = second.bindingLife →
      (∀ kind, kind ∈ first.cache.failing ↔ kind ∈ second.cache.failing) →
      ∀ who life {bearer other apiToken otherToken : String}, (bearer = "" ↔ other = "") →
        (apiToken = "" ↔ otherToken = "") →
        (first.serve (.create who bearer apiToken life)).1 =
          (second.serve (.create who other otherToken life)).1 := by
  intro claimed
  have bearers : "jwt" = "" ↔ "other" = "" := by decide
  have tokens : "" = "" ↔ "" = "" := Iff.rfl
  have alike := claimed (.new .empty none) (.new late none) rfl (fun _ => Iff.rfl) ⟨7, 42⟩
    (.ofSeconds 9000000000) bearers tokens
  have opened : ((new Memory.empty none).serve
      (.create ⟨7, 42⟩ "jwt" "" (.ofSeconds 9000000000))).1 = .ok () := rfl
  have failed : ((new late none).serve (.create ⟨7, 42⟩ "other" "" (.ofSeconds 9000000000))).1 =
      .error (.cache (.limitingSession ⟨7, 42⟩) (.deadlineTooLate (.ofSeconds 9000000000))) := rfl
  rw [opened, failed] at alike
  cases alike

/-- The replies of a server that takes the binding of an API token and then no more writes. -/
def reluctant : List Reply :=
  [.status "OK", .integer 1, .error "READONLY replica"]

/-- The replies of a server that has a session with a bearer token. -/
def sessional : List Reply :=
  [.integer 1, .bulk "jwt"]

/-- A registrar over a cache in memory that keeps a session and a binding. -/
def occupied : Registrar Memory :=
  ((new Memory.empty none).serve (.create ⟨7, 42⟩ "old" "older" (.ofSeconds 60))).2

/-- Where the session is not written, the same is answered and logged for both pairs of tokens. Of
two bearer tokens at most one gets in. In an empty cache the same comes of a creation as in one that
keeps a session. -/
theorem tokens_undisclosed_reluctant :
    (((new (Link.ofReplies reluctant) none).serve
          (.create ⟨7, 42⟩ "jwt" "api" (.ofSeconds 60))).1 =
        ((new (Link.ofReplies reluctant) none).serve
          (.create ⟨7, 42⟩ "other" "apiToken:*" (.ofSeconds 60))).1 ∧
      ((new (Link.ofReplies reluctant) none).serve
          (.create ⟨7, 42⟩ "jwt" "api" (.ofSeconds 60))).2.cache.Alike
        ((new (Link.ofReplies reluctant) none).serve
          (.create ⟨7, 42⟩ "other" "apiToken:*" (.ofSeconds 60))).2.cache) ∧
    AtMostOneIn
      ((new (Link.ofReplies sessional) none).serve (.checkBearer ⟨7, 42⟩ "jwt")).1
      ((new (Link.ofReplies sessional) none).serve (.checkBearer ⟨7, 42⟩ "other")).1 ∧
    ((new Memory.empty none).serve (.create ⟨7, 42⟩ "jwt" "api" (.ofSeconds 60))).1 =
      (occupied.serve (.create ⟨7, 42⟩ "other" "apiToken:*" (.ofSeconds 60))).1 := by
  obtain ⟨overLinks, inMemory⟩ := tokens_undisclosed
  obtain ⟨creations, -, -⟩ := overLinks (new (Link.ofReplies reluctant) none)
    (new (Link.ofReplies reluctant) none) ⟨rfl, rfl, rfl⟩
  obtain ⟨-, checks, -⟩ := overLinks (new (Link.ofReplies sessional) none)
    (new (Link.ofReplies sessional) none) ⟨rfl, rfl, rfl⟩
  have bearers : "jwt" = "" ↔ "other" = "" := by decide
  have tokens : "api" = "" ↔ "apiToken:*" = "" := by decide
  refine ⟨creations rfl ⟨7, 42⟩ (.ofSeconds 60) bearers tokens, ?_, ?_⟩
  · exact (checks ⟨7, 42⟩ (by decide) (by decide) (by decide)).1
  · exact inMemory (new Memory.empty none) occupied rfl (fun _ => Iff.rfl) ⟨7, 42⟩ (.ofSeconds 60)
      bearers tokens fun _ _ => Iff.rfl

end Registrar

end TenantSessions
