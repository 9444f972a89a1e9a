import TenantSessions.Expression.Parts
import TenantSessions.Expression.Sign

/-!
Brackets hold sets of characters: single ones, ranges, named sets and further brackets, and
operators between two sets.
-/

namespace TenantSessions.Expression

/-- What has been read of a set behind an opening bracket. -/
structure Bracket where
  /-- How deeply the left side of the last operator nests, if there is an operator. -/
  left : Option Nat
  /-- The members behind the last operator. -/
  members : Parts
deriving DecidableEq, Repr

namespace Bracket

/-- How deeply a set nests. -/
def depth (bracket : Bracket) : Nat :=
  match bracket.left with
  | none => bracket.members.depth
  | some left => max left bracket.members.depth + 1

/-- Adds a member that nests so deeply. -/
def add (bracket : Bracket) (depth : Nat) : Bracket :=
  { bracket with members := bracket.members.add depth }

/-- Makes what has been read the left side of an operator. -/
def operate (bracket : Bracket) : Bracket where
  left := some bracket.depth
  members := .none

/-- The names of sets. -/
def setNames : List String :=
  ["alnum", "alpha", "ascii", "blank", "cntrl", "digit", "graph", "lower", "print", "punct",
    "space", "upper", "word", "xdigit"]

/-- Reads a named set behind its bracket: the name between colons, behind a caret if the set is of
all other characters. -/
def readNamed? : List Char → Option (Bool × List Char)
  | ':' :: text =>
    let (negated, text) :=
      match text with
      | '^' :: rest => (true, rest)
      | _ => (false, text)
    match Text.cutAt (· == ':') text with
    | (name, ':' :: ']' :: rest) =>
      if setNames.contains (String.ofList name) then some (negated, rest) else none
    | _ => none
  | _ => none

/-- Whether a set may have a named set as a member. -/
def admitsNamed (mode : Mode) (negated : Bool) : Bool :=
  -- Among bytes, all others than a named set would hold bytes that are no characters.
  if mode.unicode then !mode.caseless else !negated

/-- Reads the dashes at the start of a set, which stand for themselves. -/
def readDashes (mode : Mode) (members : Parts) (text : List Char) : Parts × List Char :=
  match text with
  | '-' :: rest => readDashes mode (members.add 0) (mode.skip rest)
  | _ => (members, text)
termination_by text.length
decreasing_by
  have := mode.length_skip_le rest
  simp only [List.length_cons]
  omega

/-- Reads the start of a set behind its bracket: a caret, dashes, or a closing bracket that stands
for itself. -/
def readStart (mode : Mode) (text : List Char) : Option (Bracket × List Char) :=
  let (negated, text) :=
    match mode.skip text with
    | '^' :: rest => (true, mode.skip rest)
    | rest => (false, rest)
  let (members, text) :=
    match readDashes mode .none text with
    -- Dashes in front of it make a closing bracket close the set.
    | ({ count := 0, .. }, ']' :: rest) => (Parts.none.add 0, mode.skip rest)
    | (members, rest) => (members, rest)
  let admitted := members.count == 0 || mode.admitsMember (.literal '-' false)
  if (mode.unicode || !negated) && admitted then some ({ left := none, members := members }, text)
  else none

/-- Reads a sign of a set. -/
def readSign (mode : Mode) : List Char → Option (Sign × List Char)
  | [] => none
  | '\\' :: rest => Sign.readEscaped mode rest
  | c :: rest => some (.literal c false, rest)

/-- Whether two signs are the ends of a range. -/
def spanRange : Sign → Sign → Bool
  | .literal low _, .literal high _ => low ≤ high
  | _, _ => false

/-- Reads a sign, or a range from one sign to another; a dash makes no range before a bracket or
another dash. -/
def readMember (mode : Mode) (text : List Char) : Option (List Char) := do
  let (low, rest) ← readSign mode text
  if !mode.admitsMember low then none
  else
    match mode.skip rest with
    | '-' :: rest =>
      -- The dash is given back, to be read as a member or as part of an operator.
      if mode.peek? rest == some ']' || mode.peek? rest == some '-' then return '-' :: rest
      else
        let (high, rest) ← readSign mode (mode.skip rest)
        if mode.admitsMember high && spanRange low high then return rest else none
    | rest => return rest

/-- Reads on in a set, which is the last of some sets that are open, each within the one behind it.
-/
def step (mode : Mode) (bracket : Bracket) (outer : List Bracket) (text : List Char) :
    Option (List Bracket × List Char) :=
  match text with
  | ']' :: rest =>
    -- A set that is closed is a member of the one around it.
    match outer with
    | parent :: outer => some (parent.add (bracket.depth + 1) :: outer, rest)
    | [] => none
  | '[' :: rest =>
    match readNamed? rest with
    | some (negated, rest) =>
      if admitsNamed mode negated then some (bracket.add 0 :: outer, rest) else none
    | none => do
      let (inner, rest) ← readStart mode rest
      return (inner :: bracket :: outer, rest)
  | '&' :: '&' :: rest => some (bracket.operate :: outer, rest)
  | '-' :: '-' :: rest => some (bracket.operate :: outer, rest)
  | '~' :: '~' :: rest => some (bracket.operate :: outer, rest)
  | _ => do
    let rest ← readMember mode text
    return (bracket.add 0 :: outer, rest)

end Bracket

end TenantSessions.Expression
