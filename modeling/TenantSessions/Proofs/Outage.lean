import TenantSessions.Proofs.Transcript

/-!
An outage is reported as what it is. Every operation but a creation only looks at the cache before
its last command, so a command that fails leaves nothing half done, and the failure names the
command and never passes for a verdict on what was presented.
-/

namespace TenantSessions

/-- Whether a command looks at a cache and asks for no change. -/
def Command.Looks : Command → Prop
  | .present _ => True
  | .read .. => True
  | .readAll _ => True
  | .list _ => True
  | _ => False

/-- A dialogue is cautious if it only looks at the cache until it deletes, if a deletion is its last
command, and if what it refuses by itself is no fault of the cache. -/
inductive Dialogue.Cautious {α : Type} : Dialogue α → Prop where
  | done (value : α) : Cautious (.done value)
  | fail {failure : Failure} (inherent : ∀ stage fault, failure ≠ .cache stage fault) :
      Cautious (.fail failure)
  | look {command : Command} {stage : Stage} {next : command.Answer → Dialogue α}
      (looks : command.Looks) (follow : ∀ answer, Cautious (next answer)) :
      Cautious (.ask command stage next)
  | delete {keys : List String} {stage : Stage} {next : Nat → Dialogue α}
      (last : ∀ count, ∃ value, next count = .done value) :
      Cautious (.ask (.delete keys) stage next)

namespace Punctual

/-- A punctual cache in which all commands succeed again. -/
def healed (shelf : Punctual) : Punctual :=
  { shelf with failing := [] }

/-- A command that looks is answered alike whichever kinds are made to fail, if it is performed, and
changes nothing. -/
theorem perform_of_looks {command : Command} (looks : command.Looks) (shelf : Punctual) :
    ∃ answer, shelf.perform command = (.ok answer, shelf) ∧
      shelf.healed.perform command = (.ok answer, shelf.healed) := by
  -- What fails is no part of what is read.
  cases command with
  | write => exact absurd looks not_false
  | expire => exact absurd looks not_false
  | delete => exact absurd looks not_false
  | present key => exact ⟨_, rfl, rfl⟩
  | read key field => exact ⟨_, rfl, rfl⟩
  | readAll key => exact ⟨_, rfl, rfl⟩
  | list pattern => exact ⟨_, rfl, rfl⟩

/-- Where nothing fails, every command is performed. -/
theorem answer_healed (shelf : Punctual) (command : Command) :
    Cache.answer command shelf.healed = shelf.healed.perform command :=
  if_neg List.not_mem_nil

end Punctual

/-- How a cautious dialogue ends where commands of some kinds are made to fail. -/
inductive Endured {α : Type} (shelf : Punctual) (dialogue : Dialogue α) : Prop where
  /-- No command that it comes to is of such a kind, and it ends as if none were. -/
  | spared
      (spared : ∀ exchange ∈ dialogue.transcript shelf.healed,
        exchange.command.kind ∉ shelf.failing)
      (answer : (dialogue.hold shelf).1 = (dialogue.hold shelf.healed).1)
      (left : (dialogue.hold shelf).2.entries = (dialogue.hold shelf.healed).2.entries)
      (inherent : ∀ stage fault, (dialogue.hold shelf).1 ≠ .error (.cache stage fault))
  /-- It comes to a command of such a kind, and reports it with nothing changed. -/
  | reported (exchange : Exchange) (reached : exchange ∈ dialogue.transcript shelf.healed)
      (outage : exchange.command.kind ∈ shelf.failing) (stage : Stage)
      (held : dialogue.hold shelf =
        (.error (.cache stage (.injected exchange.command.kind)), shelf))

namespace Endured

variable {α : Type} {shelf : Punctual} {stage : Stage}

/-- A dialogue that starts with a command of a kind that is made to fail reports it, if the command
would be performed otherwise. -/
theorem of_failing {command : Command} {answer : command.Answer} {left : Punctual}
    (outage : command.kind ∈ shelf.failing)
    (performed : shelf.healed.perform command = (.ok answer, left))
    (next : command.Answer → Dialogue α) : Endured shelf (.ask command stage next) := by
  have failed := Punctual.answer_of_failing outage
  refine .reported ⟨command, true⟩ ?_ outage stage ?_
  · rw [Dialogue.transcript_of_ok ((shelf.answer_healed command).trans performed)]
    exact List.mem_cons_self
  · rw [Dialogue.hold, failed]

/-- A look that is performed lets a dialogue end as what follows it. -/
theorem look {command : Command} {answer : command.Answer}
    (unfailing : command.kind ∉ shelf.failing)
    (performed : shelf.perform command = (.ok answer, shelf))
    (healed : shelf.healed.perform command = (.ok answer, shelf.healed))
    {next : command.Answer → Dialogue α} (follow : Endured shelf (next answer)) :
    Endured shelf (.ask command stage next) := by
  have asked : Cache.answer command shelf = (.ok answer, shelf) :=
    (if_neg unfailing).trans performed
  have askedHealed := (shelf.answer_healed command).trans healed
  have written := Dialogue.transcript_of_ok askedHealed stage next
  have held : (Dialogue.ask command stage next).hold shelf = (next answer).hold shelf := by
    rw [Dialogue.hold, asked]
  have heldHealed : (Dialogue.ask command stage next).hold shelf.healed =
      (next answer).hold shelf.healed := by
    rw [Dialogue.hold, askedHealed]
  -- Both caches are as they were, so what follows ends in both as it would without the look.
  cases follow with
  | spared spared same left inherent =>
    refine .spared ?_ ?_ ?_ ?_
    · rw [written]
      intro exchange member
      rcases List.mem_cons.mp member with first | later
      · subst first
        exact unfailing
      · exact spared exchange later
    · rw [held, heldHealed]
      exact same
    · rw [held, heldHealed]
      exact left
    · rw [held]
      exact inherent
  | reported exchange reached outage stage failed =>
    refine .reported exchange ?_ outage stage (held.trans failed)
    rw [written]
    exact List.mem_cons_of_mem _ reached

/-- A deletion that is performed, and is the last command, lets a dialogue end alike whatever else
is made to fail. -/
theorem delete {keys : List String} {next : Nat → Dialogue α}
    (unfailing : Command.Kind.delete ∉ shelf.failing)
    (last : ∀ count, ∃ value, next count = .done value) :
    Endured shelf (.ask (.delete keys) stage next) := by
  obtain ⟨value, ended⟩ := last (shelf.entries.filter fun key _ => key ∈ keys).size
  have asked : Cache.answer (.delete keys) shelf =
      (.ok (shelf.entries.filter fun key _ => key ∈ keys).size, shelf.delete keys) :=
    if_neg unfailing
  have askedHealed : Cache.answer (.delete keys) shelf.healed =
      (.ok (shelf.entries.filter fun key _ => key ∈ keys).size, shelf.healed.delete keys) :=
    shelf.answer_healed (.delete keys)
  have held : (Dialogue.ask (.delete keys) stage next).hold shelf =
      (.ok value, shelf.delete keys) := by
    rw [Dialogue.hold, asked]
    dsimp only
    rw [ended, Dialogue.hold]
  have heldHealed : (Dialogue.ask (.delete keys) stage next).hold shelf.healed =
      (.ok value, shelf.healed.delete keys) := by
    rw [Dialogue.hold, askedHealed]
    dsimp only
    rw [ended, Dialogue.hold]
  refine .spared ?_ (by rw [held, heldHealed]) (by rw [held, heldHealed]; rfl)
    (by rw [held]; simp)
  -- The deletion is the only command, and it is performed in both caches.
  rw [Dialogue.transcript_of_ok askedHealed, ended, Dialogue.transcript]
  intro exchange member
  rw [List.mem_singleton.mp member]
  exact unfailing

end Endured

namespace Dialogue.Cautious

variable {α β : Type} {dialogue : Dialogue α}

/-- A cautious dialogue whose value is only rewritten afterwards is cautious. -/
theorem bind (cautious : dialogue.Cautious) {follow : α → Dialogue β}
    (ends : ∀ value, ∃ other, follow value = .done other) : (dialogue >>= follow).Cautious := by
  show (dialogue.bind follow).Cautious
  induction cautious with
  | done value =>
    obtain ⟨other, rewritten⟩ := ends value
    show (follow value).Cautious
    rw [rewritten]
    exact .done other
  | fail inherent => exact .fail inherent
  | look looks follow ih => exact .look looks ih
  | delete last =>
    -- Behind the deletion there is only a value, and so there is after it is rewritten.
    refine .delete fun count => ?_
    obtain ⟨value, ended⟩ := last count
    obtain ⟨other, rewritten⟩ := ends value
    exact ⟨other, by rw [ended]; exact rewritten⟩

/-- A cautious dialogue endures whatever is made to fail. -/
theorem endured (cautious : dialogue.Cautious) (shelf : Punctual) : Endured shelf dialogue := by
  -- The induction is on the dialogue: as long as it looks, the cache stays as it is.
  induction cautious with
  | done value => exact .spared (by simp [transcript]) rfl rfl (by simp [hold])
  | @fail failure inherent =>
    refine .spared (by simp [transcript]) rfl rfl fun stage fault reported => ?_
    exact inherent stage fault (Except.error.inj reported)
  | @look command stage next looks follow ih =>
    obtain ⟨answer, performed, healed⟩ := shelf.perform_of_looks looks
    by_cases outage : command.kind ∈ shelf.failing
    · exact .of_failing outage healed next
    · exact .look outage performed healed (ih answer)
  | @delete keys stage next last =>
    have performed : shelf.healed.perform (.delete keys) =
        (.ok (shelf.entries.filter fun key _ => key ∈ keys).size, shelf.healed.delete keys) := rfl
    by_cases outage : Command.Kind.delete ∈ shelf.failing
    · exact .of_failing outage performed next
    · exact .delete outage last

/-- What is computed without the cache and refused for no fault of it can stand in front. -/
theorem ofExcept {result : Except Failure α} {follow : α → Dialogue β}
    (inherent : ∀ stage fault, result ≠ .error (.cache stage fault))
    (cautious : ∀ value, (follow value).Cautious) :
    (Dialogue.ofExcept result >>= follow).Cautious := by
  cases result with
  | ok value => exact cautious value
  | error failure =>
    exact .fail fun stage fault same => inherent stage fault (congrArg Except.error same)

end Dialogue.Cautious

namespace Session

/-- What is required is no fault of the cache. -/
theorem require_ne_cache (who : Identity) (bearer apiToken : String) (stage : Stage)
    (fault : Fault) : require who bearer apiToken ≠ .error (.cache stage fault) := by
  grind [require]

/-- A binding that is malformed is no fault of the cache. -/
theorem ofFields_ne_cache (fields : Fields) (stage : Stage) (fault : Fault) :
    Identity.ofFields fields ≠ .error (.cache stage fault) := by
  -- Both numbers are read, or one of them is reported as malformed.
  rcases Identity.ofFields_cases fields with ⟨-, read⟩ | ⟨-, -, -, read⟩ | ⟨_, -, -, read⟩
  · simp [read]
  · simp [read]
  · simp [read]

/-- Confirming a token is cautious. -/
theorem cautious_confirm (who : Identity) (field presented : String) :
    (confirm who field presented).Cautious := by
  -- The key is asked for, then its field is read if it is there, and the rest is a comparison.
  refine .look trivial fun present => ?_
  cases present with
  | false => exact .fail nofun
  | true =>
    refine .look trivial fun stored => ?_
    show Dialogue.Cautious (if agrees stored presented then _ else _)
    split
    · exact .done ()
    · exact .fail nofun

/-- Checking a bearer token is cautious. -/
theorem cautious_checkBearer (who : Identity) (bearer : String) :
    (checkBearer who bearer).Cautious :=
  .ofExcept (require_ne_cache who bearer "") fun _ => cautious_confirm who Record.bearer bearer

/-- Resolving an API token is cautious. -/
theorem cautious_resolve (apiToken : String) : (resolve apiToken).Cautious := by
  unfold resolve
  split
  · exact .fail nofun
  · refine .look trivial fun fields => ?_
    show Dialogue.Cautious (if fields.isEmpty then _ else _)
    split
    · exact .fail nofun
    · exact .ofExcept (ofFields_ne_cache fields) fun who =>
        (cautious_confirm who Record.apiToken apiToken).bind fun _ => ⟨who, rfl⟩

/-- Revoking a session is cautious. -/
theorem cautious_revoke (who : Identity) : (revoke who).Cautious :=
  .delete fun _ => ⟨(), rfl⟩

/-- Revoking an org is cautious. -/
theorem cautious_revokeOrg (org : Id) : (revokeOrg org).Cautious := by
  refine .look trivial fun keys => ?_
  show Dialogue.Cautious (if List.isEmpty keys then _ else _)
  split
  · exact .done 0
  · exact .delete fun count => ⟨count, rfl⟩

end Session

namespace Request

/-- Whether a request is to open a session. -/
def Opens : Request → Prop
  | .create .. => True
  | _ => False

/-- Whether a request is only to check a token. -/
def Checks : Request → Prop
  | .checkBearer .. => True
  | .resolve _ => True
  | _ => False

/-- Every request but that to open a session is served cautiously. -/
theorem cautious_dialogue {request : Request} (settled : ¬ request.Opens) (bindingLife : Lifetime) :
    (request.dialogue bindingLife).Cautious := by
  cases request with
  | create => exact absurd trivial settled
  | checkBearer who bearer => exact Session.cautious_checkBearer who bearer
  | resolve apiToken => exact Session.cautious_resolve apiToken
  | revoke who => exact Session.cautious_revoke who
  | revokeOrg org => exact Session.cautious_revokeOrg org

end Request

namespace Registrar

/-- Whether a failure says that a command was made to fail that is of a kind made to fail. -/
def Blames (registrar : Registrar Memory) (failure : Failure) : Prop :=
  ∃ stage, ∃ kind ∈ registrar.cache.failing, failure = .cache stage (.injected kind)

/-- Whatever is made to fail, every request but that to open a session is answered as if nothing
were, with the same keys left live; or it fails by an outage that is no verdict, blames a kind of
command that is made to fail, and leaves what is live as it was. It fails so exactly if it would
come to a command of such a kind where nothing fails. A check leaves what is live as it was in any
case. -/
theorem outage_reported (registrar : Registrar Memory) (request : Request)
    (settled : ¬ request.Opens) :
    ((registrar.serve request).1 = (registrar.healed.serve request).1 ∧
        (registrar.serve request).2.cache.live = (registrar.healed.serve request).2.cache.live ∨
      ∃ failure, (registrar.serve request).1 = .error failure ∧ registrar.Blames failure ∧
        failure.isInfrastructure = true ∧ failure.isVerdict = false ∧
        (registrar.serve request).2.cache.live = registrar.cache.live) ∧
    ((∃ stage fault, (registrar.serve request).1 = .error (.cache stage fault)) ↔
      ∃ exchange ∈ registrar.healed.transcript request,
        exchange.command.kind ∈ registrar.cache.failing) ∧
    (request.Checks → (registrar.serve request).2.cache.live = registrar.cache.live) := by
  have checked : request.Checks →
      (registrar.serve request).2.cache.live = registrar.cache.live := by
    intro checks
    cases request with
    | checkBearer who bearer =>
      exact congrArg Punctual.entries (registrar.serve_checkBearer who bearer).2
    | resolve apiToken => exact congrArg Punctual.entries (registrar.serve_resolve apiToken).2
    | create => exact absurd checks not_false
    | revoke => exact absurd checks not_false
    | revokeOrg => exact absurd checks not_false
  -- What is answered and left is read off the punctual cache, with and without the outage.
  have held := registrar.hold_serve request
  have heldHealed := registrar.healed.hold_serve request
  have reached : registrar.healed.transcript request =
      (request.dialogue registrar.bindingLife).transcript registrar.shelf.healed :=
    registrar.healed.transcript_eq request
  rw [reached]
  cases (request.cautious_dialogue settled registrar.bindingLife).endured registrar.shelf with
  | spared spared same left inherent =>
    rw [held] at same left inherent
    rw [show registrar.shelf.healed = registrar.healed.shelf from rfl] at same left
    refine ⟨.inl ⟨?_, ?_⟩, ?_, checked⟩
    · exact same.trans (congrArg Prod.fst heldHealed)
    · exact left.trans (congrArg (Punctual.entries ∘ Prod.snd) heldHealed)
    · constructor
      · rintro ⟨stage, fault, failed⟩
        exact absurd failed (inherent stage fault)
      · rintro ⟨exchange, member, outage⟩
        exact absurd outage (spared exchange member)
  | reported exchange member outage stage failed =>
    rw [held] at failed
    obtain ⟨answer, left⟩ := Prod.mk.inj failed
    refine ⟨.inr ⟨_, answer, ⟨stage, _, outage, rfl⟩, rfl, rfl, ?_⟩, ?_, checked⟩
    · exact congrArg Punctual.entries left
    · exact iff_of_true ⟨stage, _, answer⟩ ⟨exchange, member, outage⟩

/-- A registrar with one session, whose fields cannot be read. -/
def dimmed : Registrar Memory :=
  let opened := ((new Memory.empty none).serve
    (.create ⟨7, 42⟩ "jwt" "api" (.ofSeconds 3600))).2
  { opened with cache := opened.cache.fail .read }

/-- In resolving the API token of the session, the dimmed registrar comes to the command that fails
only behind two others, and says so. -/
theorem outage_reported_dimmed :
    ¬ (Request.resolve "api").Opens ∧
      (dimmed.serve (.resolve "api")).1 =
        .error (.cache (.readingSession ⟨7, 42⟩) (.injected .read)) ∧
      (∃ exchange ∈ dimmed.healed.transcript (.resolve "api"),
        exchange.command.kind ∈ dimmed.cache.failing) ∧
      (dimmed.serve (.resolve "api")).2.cache.live = dimmed.cache.live := by
  obtain ⟨-, reached, checked⟩ := outage_reported dimmed (.resolve "api") not_false
  exact ⟨not_false, rfl, reached.mp ⟨.readingSession ⟨7, 42⟩, .injected .read, rfl⟩,
    checked trivial⟩

end Registrar

end TenantSessions
