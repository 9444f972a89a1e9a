import TenantSessions.Text.Cut

/-!
The mode of an expression says how it is read from some place on. Letters between parentheses change
it, for the rest of the group that they stand in.
-/

namespace TenantSessions.Expression

/-- How an expression is read from some place on. -/
structure Mode where
  /-- Whether a letter stands for both of its cases. -/
  caseless : Bool
  /-- Whether the expression is about characters, and not about bytes. -/
  unicode : Bool
  /-- Whether blanks and comments between the parts are skipped. -/
  spaced : Bool
deriving DecidableEq, Repr

namespace Mode

/-- The mode in which an expression starts. -/
def initial : Mode where
  caseless := false
  unicode := true
  spaced := false

/-- Drops blanks and comments; a comment lasts from a number sign to the end of the line. -/
def dropBlanks (inComment : Bool) : List Char → List Char
  | [] => []
  | c :: rest =>
    if inComment then dropBlanks (c != '\n') rest
    else if Text.isBlank c then dropBlanks false rest
    else if c = '#' then dropBlanks true rest
    else c :: rest

/-- Dropping blanks makes no text longer. -/
theorem length_dropBlanks_le (inComment : Bool) (text : List Char) :
    (dropBlanks inComment text).length ≤ text.length := by
  -- Each step leaves the rest of the text, or stops.
  fun_induction dropBlanks inComment text <;> simp_all <;> omega

/-- Skips what does not count between the parts of an expression. -/
def skip (mode : Mode) (text : List Char) : List Char :=
  if mode.spaced then dropBlanks false text else text

/-- Skipping makes no text longer. -/
theorem length_skip_le (mode : Mode) (text : List Char) :
    (mode.skip text).length ≤ text.length := by
  unfold skip
  split
  · exact length_dropBlanks_le false text
  · exact Nat.le_refl _

/-- The next character that counts; blanks and one number sign are looked past, unless nothing
follows them. -/
def peek? (mode : Mode) (text : List Char) : Option Char :=
  if mode.spaced then
    let ahead :=
      match text.dropWhile Text.isBlank with
      | '#' :: rest => rest.dropWhile Text.isBlank
      | rest => rest
    ahead.head?.or text.head?
  else text.head?

/-- The letters that change modes; those of the four last do not bear on how an expression is read.
-/
def letters : List Char := ['i', 'u', 'x', 'm', 's', 'R', 'U']

/-- The mode after some letters, of which those behind a dash are turned off; none may be repeated,
and the dash may not come last. -/
def turn? (mode : Mode) (chosen : List Char) : Option Mode :=
  if chosen.all (fun c => ('-' :: letters).contains c && chosen.count c == 1) &&
      chosen.getLast? != some '-' then
    -- As no letter is repeated, none is turned on and off at once.
    let (on, off) := Text.cutAt (· == '-') chosen
    let after (letter : Char) (before : Bool) : Bool :=
      on.contains letter || (before && !off.contains letter)
    some {
      caseless := after 'i' mode.caseless
      unicode := after 'u' mode.unicode
      spaced := after 'x' mode.spaced }
  else none

end Mode

end TenantSessions.Expression
