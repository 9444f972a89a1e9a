import TenantSessions.Failure

/-! A dialogue is an operation told as the commands it puts to a cache, one answer at a time. -/

namespace TenantSessions

/-- A cache performs commands, and its state may change whether or not it does so. -/
class Cache (σ : Type) where
  answer : (command : Command) → σ → Except Fault command.Answer × σ

/-- An operation: it ends, or puts a command at some stage and goes on with the answer. -/
inductive Dialogue (α : Type) where
  | done (value : α)
  | fail (failure : Failure)
  | ask (command : Command) (stage : Stage) (next : command.Answer → Dialogue α)

namespace Dialogue

/-- Goes on with the value of a dialogue that ends well. -/
def bind {α β : Type} : Dialogue α → (α → Dialogue β) → Dialogue β
  | .done value, follow => follow value
  | .fail failure, _ => .fail failure
  | .ask command stage next, follow => .ask command stage fun answer => (next answer).bind follow

instance : Monad Dialogue where
  pure := .done
  bind := bind

/-- Puts one command and ends with its answer. -/
def put (command : Command) (stage : Stage) : Dialogue command.Answer :=
  .ask command stage .done

/-- Ends with a value computed without the cache. -/
def ofExcept {α : Type} : Except Failure α → Dialogue α
  | .ok value => .done value
  | .error failure => .fail failure

/-- Holds a dialogue with a cache; the first fault ends it, and what was done until then stays done.
-/
def hold {σ α : Type} [Cache σ] : Dialogue α → σ → Except Failure α × σ
  | .done value, state => (.ok value, state)
  | .fail failure, state => (.error failure, state)
  | .ask command stage next, state =>
    match Cache.answer command state with
    | (.ok answer, state) => (next answer).hold state
    -- There is no rollback: the state is the one that the fault has left.
    | (.error fault, state) => (.error (.cache stage fault), state)

instance : LawfulMonad Dialogue :=
  LawfulMonad.mk' Dialogue
    (by
      intro α dialogue
      show dialogue.bind _ = dialogue
      induction dialogue with
      | done => rfl
      | fail => rfl
      | ask command stage next ih => simp only [bind]; exact congrArg _ (funext ih))
    (by intros; rfl)
    (by
      intro α β γ dialogue first second
      show (dialogue.bind first).bind second = dialogue.bind fun value => (first value).bind second
      induction dialogue with
      | done => rfl
      | fail => rfl
      | ask command stage next ih => simp only [bind]; exact congrArg _ (funext ih))

/-- Holding two dialogues in a row holds the second where the first has left the cache. -/
theorem hold_bind {σ α β : Type} [Cache σ] (dialogue : Dialogue α) (follow : α → Dialogue β)
    (state : σ) :
    (dialogue >>= follow).hold state =
      match dialogue.hold state with
      | (.ok value, state) => (follow value).hold state
      | (.error failure, state) => (.error failure, state) := by
  -- The commands of the first dialogue are put in the same order on both sides.
  show (dialogue.bind follow).hold state = _
  induction dialogue generalizing state with
  | done => rfl
  | fail => rfl
  | ask command stage next ih =>
    simp only [bind, hold]
    cases Cache.answer command state with
    | mk answer state =>
      cases answer with
      | ok answer => exact ih answer state
      | error fault => rfl

/-- Putting one command answers what the cache answers, and a fault becomes a failure at its stage.
-/
theorem hold_put {σ : Type} [Cache σ] (command : Command) (stage : Stage) (state : σ) :
    (put command stage).hold state =
      ((Cache.answer command state).1.mapError (Failure.cache stage),
        (Cache.answer command state).2) := by
  -- The dialogue ends with the answer, whatever it is.
  simp only [put, hold]
  cases Cache.answer command state with
  | mk answer state => cases answer <;> rfl

/-- What is computed without the cache leaves it alone. -/
theorem hold_ofExcept {σ α : Type} [Cache σ] (result : Except Failure α) (state : σ) :
    (ofExcept result).hold state = (result, state) := by
  cases result <;> rfl

end Dialogue

end TenantSessions
