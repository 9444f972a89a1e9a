import TenantSessions.Proofs.Chronicle

/-! The transcript of a dialogue lists the commands that it puts to a cache, in their order, and
tells of each whether the cache performs it. -/

namespace TenantSessions

/-- A command that is put to a cache, and whether the cache performs it. -/
structure Exchange where
  command : Command
  performed : Bool
deriving DecidableEq, Repr

/-- The key to which an exchange has written fields, if it has written any. -/
def Exchange.written? : Exchange → Option String
  | ⟨.write key _, true⟩ => some key
  | _ => none

namespace Dialogue

/-- The exchanges of a dialogue with a cache; one that is not performed is the last. -/
def transcript {σ α : Type} [Cache σ] : Dialogue α → σ → List Exchange
  | .done _, _ => []
  | .fail _, _ => []
  | .ask command _ next, state =>
    match Cache.answer command state with
    | (.ok answer, state) => ⟨command, true⟩ :: (next answer).transcript state
    | (.error _, _) => [⟨command, false⟩]

/-- The keys to which a dialogue writes fields. -/
def written {σ α : Type} [Cache σ] (dialogue : Dialogue α) (state : σ) : List String :=
  (dialogue.transcript state).filterMap Exchange.written?

variable {σ α : Type} [Cache σ]

/-- A command that is performed is followed by what the dialogue goes on with. -/
theorem transcript_of_ok {command : Command} {answer : command.Answer} {state left : σ}
    (answered : Cache.answer command state = (.ok answer, left)) (stage : Stage)
    (next : command.Answer → Dialogue α) :
    (Dialogue.ask command stage next).transcript state =
      ⟨command, true⟩ :: (next answer).transcript left := by
  rw [transcript, answered]

/-- The transcript of two dialogues in a row is that of the first and, if it ends well, that of the
second. -/
theorem transcript_bind {β : Type} (dialogue : Dialogue α) (follow : α → Dialogue β) (state : σ) :
    (dialogue >>= follow).transcript state =
      dialogue.transcript state ++
        match dialogue.hold state with
        | (.ok value, left) => (follow value).transcript left
        | (.error _, _) => [] := by
  -- The commands of the first dialogue are put in the same order on both sides.
  show (dialogue.bind follow).transcript state = _
  induction dialogue generalizing state with
  | done => rfl
  | fail => rfl
  | ask command stage next ih =>
    simp only [bind, hold, transcript]
    cases Cache.answer command state with
    | mk answer left =>
      cases answer with
      | ok answer => exact congrArg (_ :: ·) (ih answer left)
      | error fault => rfl

/-- What two dialogues in a row write is what the first writes and, if it ends well, what the second
does. -/
theorem written_bind {β : Type} (dialogue : Dialogue α) (follow : α → Dialogue β) (state : σ) :
    (dialogue >>= follow).written state =
      dialogue.written state ++
        match dialogue.hold state with
        | (.ok value, left) => (follow value).written left
        | (.error _, _) => [] := by
  rw [written, transcript_bind, List.filterMap_append]
  -- Only the second part depends on how the first dialogue ends.
  cases dialogue.hold state with
  | mk answer left => cases answer <;> rfl

/-- A view of a cache that keeps every answer keeps the transcript of every dialogue. -/
theorem transcript_view {τ : Type} [Cache τ] {view : σ → τ}
    (square : ∀ command state, Cache.answer command (view state) =
      ((Cache.answer command state).1, view (Cache.answer command state).2))
    (dialogue : Dialogue α) (state : σ) :
    dialogue.transcript (view state) = dialogue.transcript state := by
  -- As for what is answered: equal answers keep both dialogues in step.
  induction dialogue generalizing state with
  | done => rfl
  | fail => rfl
  | ask command stage next ih =>
    simp only [transcript, square]
    cases Cache.answer command state with
    | mk answer left =>
      cases answer with
      | ok answer => exact congrArg (_ :: ·) (ih answer left)
      | error fault => rfl

end Dialogue

/-- A dialogue with a cache in memory has the transcript that it has with the punctual cache. -/
theorem Memory.transcript_punctual {α : Type} (dialogue : Dialogue α) (memory : Memory) :
    dialogue.transcript memory.punctual = dialogue.transcript memory :=
  Dialogue.transcript_view answer_punctual dialogue memory

namespace Registrar

/-- The commands that serving a request puts to the cache, and which of them it performs. -/
def transcript (registrar : Registrar Memory) (request : Request) : List Exchange :=
  (request.dialogue registrar.bindingLife).transcript registrar.cache

/-- The keys to which serving a request writes fields. -/
def written (registrar : Registrar Memory) (request : Request) : List String :=
  (registrar.transcript request).filterMap Exchange.written?

/-- The transcript of a request is the one that it has with the punctual cache. -/
theorem transcript_eq (registrar : Registrar Memory) (request : Request) :
    registrar.transcript request =
      (request.dialogue registrar.bindingLife).transcript registrar.shelf :=
  (Memory.transcript_punctual _ _).symm

/-- What serving a request writes is what it writes with the punctual cache. -/
theorem written_eq (registrar : Registrar Memory) (request : Request) :
    registrar.written request =
      (request.dialogue registrar.bindingLife).written registrar.shelf := by
  rw [written, transcript_eq, Dialogue.written]

end Registrar

end TenantSessions
