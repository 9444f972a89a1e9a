import TenantSessions.Expression.Mode
import TenantSessions.Expression.Parts
import TenantSessions.Text.Letter

/-! Groups stand between parentheses. What follows the opening one may name the group, change the
mode of its content, or, without any content, change the mode of what comes next. -/

namespace TenantSessions.Expression

/-- Parts that follow each other. -/
structure Row where
  parts : Parts
  /-- How deeply the last part nests, if it is one that can be repeated. -/
  last : Option Nat
deriving DecidableEq, Repr

namespace Row

/-- The row without any part. -/
def empty : Row where
  parts := .none
  last := none

/-- Adds a part that nests so deeply. -/
def add (row : Row) (depth : Nat) : Row where
  parts := row.parts.add depth
  last := some depth

/-- Adds a part that cannot be repeated. -/
def addMark (row : Row) : Row where
  parts := row.parts.add 0
  last := none

/-- Repeats the last part, which then nests deeper by one. -/
def repeat? (row : Row) : Option Row :=
  row.last.map fun depth =>
    { parts := { row.parts with deepest := max row.parts.deepest (depth + 1) }
      last := some (depth + 1) }

end Row

/-- What has been read outside a group that is open. -/
structure Group where
  mode : Mode
  /-- The alternatives in front of the one that the group stands in. -/
  alternatives : Parts
  row : Row
deriving DecidableEq, Repr

/-- What an opening parenthesis starts. -/
inductive Opening where
  /-- A group, which may have a name. -/
  | named (name : Option (List Char))
  /-- A group with a mode of its own. -/
  | within (mode : Mode)
  /-- No group, but a mode for what follows. -/
  | turned (mode : Mode)
deriving DecidableEq, Repr

namespace Opening

/-- Whether a text names a group: letters, numbers and some marks, of which only a letter or a low
line may come first. -/
def isName : List Char → Bool
  | [] => false
  | c :: rest =>
    (c == '_' || Text.isLetter c) &&
      rest.all fun c => ['_', '.', '[', ']'].contains c || Text.isLetterOrNumber c

/-- Reads the name of a group up to the angle bracket that ends it. -/
def readName (text : List Char) : Option (Opening × List Char) :=
  match Text.cutAt (· == '>') text with
  | (name, _ :: rest) => if isName name then some (.named (some name), rest) else none
  | (_, []) => none

/-- Reads the letters that change a mode, up to a colon in front of a content or to a closing
parenthesis. -/
def readMode (mode : Mode) (text : List Char) : Option (Opening × List Char) :=
  match Text.cutAt (fun c => c == ':' || c == ')') text with
  | (chosen, ':' :: rest) => (mode.turn? chosen).map fun mode => (.within mode, rest)
  | (chosen, ')' :: rest) =>
    -- A mode that changes nothing, between a question mark and a parenthesis, is an error.
    if chosen.isEmpty then none else (mode.turn? chosen).map fun mode => (.turned mode, rest)
  | _ => none

/-- Reads what follows an opening parenthesis. -/
def read (mode : Mode) (text : List Char) : Option (Opening × List Char) :=
  match mode.skip text with
  -- Groups are named in two ways, which come to the same.
  | '?' :: 'P' :: '<' :: rest => readName rest
  | '?' :: '<' :: rest => readName rest
  | '?' :: rest => readMode mode rest
  | rest => some (.named none, rest)

end Opening

end TenantSessions.Expression
