import TenantSessions.Registrar
import TenantSessions.Cache.Memory

/-! A desk serves the requests of a script one after the other while time passes; what it answers is
all that its users learn. -/

namespace TenantSessions

/-- What serves requests, can be reopened, and lets time pass as long as its clock goes. -/
class Desk (δ : Type) where
  serve : δ → (request : Request) → Except Failure request.Answer × δ
  reopen : δ → Option Lifetime → δ
  pass? : δ → Lifetime → Option δ

/-- A registrar over a cache in memory is a desk, and time passes for its cache. -/
instance : Desk (Registrar Memory) where
  serve := Registrar.serve
  reopen := Registrar.reopen
  pass? registrar span :=
    (registrar.cache.advance? span).map fun cache => { registrar with cache := cache }

/-- What happens at a desk where no command fails. -/
inductive Event where
  | serve (request : Request)
  | reopen (bindingLife : Option Lifetime)
  | pass (span : Lifetime)

/-- What is seen of an event. -/
inductive Response where
  | served (request : Request) (answer : Except Failure request.Answer)
  | reopened
  | passed
  /-- The clock cannot name the instant, and the program stops. -/
  | stopped

namespace Desk

/-- What is seen at a desk when a script of events happens there. -/
def answers {δ : Type} [Desk δ] (desk : δ) : List Event → List Response
  | [] => []
  | .serve request :: script =>
    .served request (serve desk request).1 :: answers (serve desk request).2 script
  | .reopen bindingLife :: script => .reopened :: answers (reopen desk bindingLife) script
  | .pass span :: script =>
    match pass? desk span with
    | some desk => .passed :: answers desk script
    | none => [.stopped]

/-- A relation between two desks that every event preserves, and under which they answer alike. -/
structure Simulation {δ ε : Type} [Desk δ] [Desk ε] (alike : δ → ε → Prop) : Prop where
  serve : ∀ {first second}, alike first second → ∀ request,
    (Desk.serve first request).1 = (Desk.serve second request).1 ∧
      alike (Desk.serve first request).2 (Desk.serve second request).2
  reopen : ∀ {first second}, alike first second → ∀ bindingLife,
    alike (Desk.reopen first bindingLife) (Desk.reopen second bindingLife)
  pass : ∀ {first second}, alike first second → ∀ span,
    Option.Rel alike (pass? first span) (pass? second span)

/-- Two desks that are alike in a simulation answer every script alike. -/
theorem Simulation.answers_eq {δ ε : Type} [Desk δ] [Desk ε] {alike : δ → ε → Prop}
    (simulation : Simulation alike) (script : List Event) {first : δ} {second : ε}
    (start : alike first second) : answers first script = answers second script := by
  -- Each event is answered alike and leaves the desks alike, so the rest of the script is too.
  induction script generalizing first second with
  | nil => rfl
  | cons event script ih =>
    cases event with
    | serve request =>
      obtain ⟨answer, next⟩ := simulation.serve start request
      rw [answers, answers, answer, ih next]
    | reopen bindingLife =>
      rw [answers, answers, ih (simulation.reopen start bindingLife)]
    | pass span =>
      have passed := simulation.pass start span
      rw [answers, answers]
      cases first? : pass? first span with
      | none =>
        cases second? : pass? second span with
        | none => rfl
        | some second => simp [first?, second?] at passed
      | some first =>
        cases second? : pass? second span with
        | none => simp [first?, second?] at passed
        | some second =>
          rw [first?, second?, Option.rel_some_some] at passed
          simp only [ih passed]

end Desk

end TenantSessions
