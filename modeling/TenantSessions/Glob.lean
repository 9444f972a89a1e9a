/-!
A glob pattern matches texts by `?`, which stands for one character, and `*`, which stands for a run
of characters. A character of the text that equals the pattern's is always taken as itself first, so
a star of the pattern that faces a star of the text stands for just that star.
-/

namespace TenantSessions.Glob

/-- A star that a scan has passed: the pattern behind it, and the text from which its run may grow.
-/
structure Star where
  after : List Char
  run : List Char
deriving DecidableEq, Repr

/-- Where a scan stands: what is left of pattern and text, and the last star it has passed. -/
structure Cursor where
  pattern : List Char
  text : List Char
  star : Option Star
deriving DecidableEq, Repr

namespace Cursor

/-- A scan of a text by a pattern before its first step. -/
def start (pattern text : String) : Cursor where
  pattern := pattern.toList
  text := text.toList
  star := none

/-- Lets the run of the last star take one more character; without a star the scan has failed. -/
def resume (cursor : Cursor) : Cursor ⊕ Bool :=
  match cursor.star with
  | some ⟨after, _ :: run⟩ => .inl { pattern := after, text := run, star := some ⟨after, run⟩ }
  | _ => .inr false

/-- One step of a scan: on to the next cursor, or to the verdict. -/
def step (cursor : Cursor) : Cursor ⊕ Bool :=
  match cursor.text, cursor.pattern with
  -- At the end of the text only stars may be left, each of which stands for nothing.
  | [], rest => .inr (rest.all (· == '*'))
  | _ :: _, [] => cursor.resume
  | t :: text, p :: pattern =>
    -- A star that faces a star is taken here, as itself.
    if p = '?' ∨ p = t then .inl { pattern := pattern, text := text, star := cursor.star }
    else if p = '*' then
      .inl { pattern := pattern, text := t :: text, star := some ⟨pattern, t :: text⟩ }
    else cursor.resume

/-- What is left of the pattern lies behind the last star. -/
def Behind (cursor : Cursor) : Prop :=
  ∀ star ∈ cursor.star, cursor.pattern.length ≤ star.after.length

/-- How far a scan is from its end: the pattern behind the last star, its run, and the text. -/
def rank (cursor : Cursor) : Nat × Nat × Nat :=
  match cursor.star with
  -- Before the first star the pattern counts for one more, so that passing the star counts.
  | none => (cursor.pattern.length + 1, 0, cursor.text.length)
  | some star => (star.after.length, star.run.length, cursor.text.length)

/-- A cursor before its first star has nothing to lie behind. -/
theorem behind_start (pattern text : String) : (start pattern text).Behind := by
  simp [Behind, start]

/-- Resuming at a star starts right behind it, and its run is shorter by one. -/
theorem resume_next {cursor next : Cursor} (moved : cursor.resume = .inl next) :
    next.Behind ∧ Prod.Lex (· < ·) (Prod.Lex (· < ·) (· < ·)) next.rank cursor.rank := by
  -- Only a star whose run can still grow leads to a next cursor.
  unfold resume at moved
  split at moved
  · rename_i after head run found
    cases moved
    refine ⟨by simp [Behind], ?_⟩
    simp only [rank, found]
    exact .right _ (.left _ _ (by simp))
  · cases moved

/-- A step keeps the pattern behind the last star and comes closer to the end. -/
theorem step_next {cursor next : Cursor} (behind : cursor.Behind)
    (moved : cursor.step = .inl next) :
    next.Behind ∧ Prod.Lex (· < ·) (Prod.Lex (· < ·) (· < ·)) next.rank cursor.rank := by
  -- A matched character shortens the text, a new star the pattern, and a resumption the run.
  unfold step at moved
  split at moved
  · cases moved
  · exact resume_next moved
  · rename_i t text p pattern textIs patternIs
    split at moved
    · cases moved
      refine ⟨?_, ?_⟩
      · intro star found
        have bound := behind star found
        simp only [patternIs, List.length_cons] at bound
        exact Nat.le_of_succ_le bound
      · cases found : cursor.star with
        | none =>
          simp only [rank, found, patternIs, textIs]
          exact .left _ _ (by simp)
        | some star =>
          simp only [rank, found, textIs]
          exact .right _ (.right _ (by simp))
    · split at moved
      · cases moved
        refine ⟨by simp [Behind], ?_⟩
        cases found : cursor.star with
        | none =>
          simp only [rank, found, patternIs]
          exact .left _ _ (Nat.lt_succ_of_lt (Nat.lt_succ_self _))
        | some star =>
          have bound := behind star (by simp [found])
          simp only [patternIs, List.length_cons] at bound
          simp only [rank, found]
          exact .left _ _ bound
      · exact resume_next moved

/-- Steps until the verdict. -/
def run (cursor : Cursor) (behind : cursor.Behind) : Bool :=
  match moved : cursor.step with
  | .inr verdict => verdict
  | .inl next => run next (step_next behind moved).1
termination_by cursor.rank
decreasing_by exact (step_next behind moved).2

end Cursor

/-- Whether a pattern matches a text. -/
def accepts (pattern text : String) : Bool :=
  (Cursor.start pattern text).run (Cursor.behind_start pattern text)

end TenantSessions.Glob
