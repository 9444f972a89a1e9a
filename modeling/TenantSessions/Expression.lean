import TenantSessions.Expression.Bracket
import TenantSessions.Expression.Group

/-!
Regular expressions, as far as to tell whether a text is one. Nothing is known of the letters and
classes of scripts, so an expression about characters can neither ignore cases nor name classes.
-/

namespace TenantSessions.Expression

/-- Why a text cannot be used as an expression. -/
inductive Flaw where
  /-- It is no expression. -/
  | invalid
  /-- It asks for the edges of words in any script. -/
  | wordEdge
deriving DecidableEq, Repr

/-- How messages describe why a text cannot be used. -/
def Flaw.message : Flaw → String
  | .invalid => "error building NFA"
  | .wordEdge =>
    "unsupported regex feature for DFAs: cannot build DFAs for regexes with Unicode word " ++
      "boundaries; switch to ASCII word boundaries, or heuristically enable Unicode word " ++
      "boundaries or use a different regex engine"

/-- What has been read of an expression. -/
structure Reading where
  mode : Mode
  /-- The groups that are open, the innermost first. -/
  groups : List Group
  /-- The alternatives of the group, apart from the last. -/
  alternatives : Parts
  /-- The last alternative of the group. -/
  row : Row
  /-- The sets that are open, the innermost first. -/
  brackets : List Bracket
  names : List (List Char)
  /-- Whether the edge of a word in any script was asked for. -/
  asksWordEdge : Bool
deriving DecidableEq, Repr

namespace Reading

/-- The reading of which nothing has been read. -/
def start : Reading where
  mode := .initial
  groups := []
  alternatives := .none
  row := .empty
  brackets := []
  names := []
  asksWordEdge := false

/-- Adds a part that nests so deeply. -/
def add (reading : Reading) (depth : Nat) : Reading :=
  { reading with row := reading.row.add depth }

/-- How deeply the alternatives of the group nest together. -/
def depth (reading : Reading) : Nat :=
  (reading.alternatives.add reading.row.parts.depth).depth

/-- Opens a group whose content has a given mode. -/
def openGroup (reading : Reading) (mode : Mode) : Reading :=
  let outer : Group :=
    { mode := reading.mode, alternatives := reading.alternatives, row := reading.row }
  { reading with
    mode := mode
    groups := outer :: reading.groups
    alternatives := .none
    row := .empty }

/-- Starts what follows an opening parenthesis; two groups may not have one name. -/
def enter? (reading : Reading) : Opening → Option Reading
  | .named none => some (reading.openGroup reading.mode)
  | .named (some name) =>
    if reading.names.contains name then none
    else some { reading.openGroup reading.mode with names := name :: reading.names }
  | .within mode => some (reading.openGroup mode)
  -- No group is opened, so the mode lasts to the end of the one that is open.
  | .turned mode => some { reading with mode := mode, row := reading.row.addMark }

/-- Closes the innermost group, which becomes a part of what is outside of it. -/
def leave? (reading : Reading) : Option Reading :=
  match reading.groups with
  | [] => none
  | group :: groups =>
    some { reading with
      mode := group.mode
      groups := groups
      alternatives := group.alternatives
      -- The group nests deeper by one than what stands in it.
      row := group.row.add (reading.depth + 1) }

/-- Ends an alternative. -/
def branch (reading : Reading) : Reading :=
  { reading with
    alternatives := reading.alternatives.add reading.row.parts.depth
    row := .empty }

/-- Repeats the last part; a question mark behind the repetition belongs to it. -/
def repeat? (reading : Reading) (rest : List Char) : Option (Reading × List Char) :=
  reading.row.repeat?.map fun row =>
    -- A question mark here says to repeat as few times as possible.
    let rest :=
      match rest with
      | '?' :: rest => rest
      | _ => rest
    ({ reading with row := row }, rest)

/-- Adds a sign if the mode admits it. -/
def addSign? (reading : Reading) (sign : Sign) : Option Reading :=
  if reading.mode.admits sign then
    some { reading.add 0 with
      asksWordEdge := reading.asksWordEdge || (sign == .wordEdge && reading.mode.unicode) }
  else none

/-- Reads on outside all brackets. A counted repetition is never complete, for no closing brace
stands in the text. -/
def stepOutside (reading : Reading) (c : Char) (rest : List Char) :
    Option (Reading × List Char) :=
  match c with
  | '(' => do
    let (opening, rest) ← Opening.read reading.mode rest
    return (← reading.enter? opening, rest)
  | ')' => reading.leave?.map (·, rest)
  | '|' => some (reading.branch, rest)
  | '[' => do
    let (bracket, rest) ← Bracket.readStart reading.mode rest
    return ({ reading with brackets := [bracket] }, rest)
  | '?' => reading.repeat? rest
  | '*' => reading.repeat? rest
  | '+' => reading.repeat? rest
  | '\x7b' => none
  | '.' => if reading.mode.unicode then some (reading.add 0, rest) else none
  | '^' => some (reading.add 0, rest)
  | '$' => some (reading.add 0, rest)
  | '\\' => do
    let (sign, rest) ← Sign.readEscaped reading.mode rest
    return (← reading.addSign? sign, rest)
  | _ => (reading.addSign? (.literal c false)).map (·, rest)

/-- Reads on, in the innermost set if one is open. -/
def step (reading : Reading) (c : Char) (rest : List Char) : Option (Reading × List Char) :=
  match reading.brackets, c with
  | [], _ => reading.stepOutside c rest
  -- The outermost set is closed here, and any inner one where sets are read.
  | [bracket], ']' => some ({ reading.add (bracket.depth + 1) with brackets := [] }, rest)
  | bracket :: outer, _ => do
    let (brackets, rest) ← Bracket.step reading.mode bracket outer (c :: rest)
    return ({ reading with brackets := brackets }, rest)

/-- Reads a text to its end; every step leaves less of it. -/
def readAll (reading : Reading) (text : List Char) : Option Reading :=
  match reading.mode.skip text with
  | [] => some reading
  | c :: rest =>
    match reading.step c rest with
    | some (reading, rest) =>
      if rest.length < text.length then reading.readAll rest else none
    | none => none
termination_by text.length

end Reading

/-- How deeply an expression may nest. -/
def maxDepth : Nat := 250

/-- Why a text without closing braces cannot be used as an expression, if it cannot. -/
def flaw? (text : List Char) : Option Flaw :=
  match Reading.start.readAll text with
  | none => some .invalid
  | some reading =>
    -- A text that ends within a group or a set is no expression.
    let complete := reading.groups.isEmpty && reading.brackets.isEmpty
    if !complete || maxDepth < reading.depth then some .invalid
    else if reading.asksWordEdge then some .wordEdge
    else none

end TenantSessions.Expression
