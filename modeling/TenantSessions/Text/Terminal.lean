/-!
Control sequences tell a terminal how to show text. Text that goes elsewhere is stripped of them and
of all controls but blanks.
-/

namespace TenantSessions.Text

/-- How far a control sequence has come. -/
inductive Sequence where
  /-- Outside any sequence. -/
  | ground
  /-- Behind the escape character. -/
  | escape
  | escapeIntermediate
  /-- In a sequence of parameters that one letter ends. -/
  | parameters
  /-- In front of a string for the device. -/
  | deviceEntry
  | deviceParameter
  | deviceIntermediate
  /-- In a string that the string terminator ends. -/
  | string
  /-- In a string that the bell ends. -/
  | title
deriving DecidableEq, Repr

namespace Sequence

/-- The byte that ends a string by itself. -/
def terminator : UInt8 := 0x9C

/-- Where the character after the escape character leads. -/
def afterEscape (c : Char) : Sequence :=
  if ' ' ≤ c ∧ c ≤ '/' then .escapeIntermediate
  else if c = '[' then .parameters
  else if c = ']' then .title
  else if c = 'P' then .deviceEntry
  else if c = 'X' ∨ c = '^' ∨ c = '_' then .string
  else if '0' ≤ c ∧ c ≤ '~' then .ground
  else .escape

/-- Where a character that is not shown leads; escape, cancel and substitute are obeyed anywhere. -/
def next (sequence : Sequence) (c : Char) : Sequence :=
  if c = '\x1b' then .escape
  else if c = '\x18' ∨ c = '\x1a' then .ground
  else
    match sequence with
    | .ground => .ground
    | .escape => afterEscape c
    | .escapeIntermediate => if '0' ≤ c ∧ c ≤ '~' then .ground else .escapeIntermediate
    | .parameters => if '@' ≤ c ∧ c ≤ '~' then .ground else .parameters
    | .deviceEntry =>
      if ' ' ≤ c ∧ c ≤ '/' then .deviceIntermediate
      else if '0' ≤ c ∧ c ≤ '?' then .deviceParameter
      else if '@' ≤ c ∧ c ≤ '~' then .string
      else .deviceEntry
    | .deviceParameter =>
      if ' ' ≤ c ∧ c ≤ '/' then .deviceIntermediate
      else if '<' ≤ c ∧ c ≤ '~' then .string
      else .deviceParameter
    | .deviceIntermediate => if '0' ≤ c ∧ c ≤ '~' then .string else .deviceIntermediate
    -- The terminator is looked for byte by byte, so it may hide within a character.
    | .string => if (String.utf8EncodeChar c).contains terminator then .ground else .string
    | .title => if c = '\x07' then .ground else .title

/-- Whether a sequence lets blanks through. -/
def passesBlanks : Sequence → Bool
  | .escape => true
  | .escapeIntermediate => true
  | .parameters => true
  | _ => false

end Sequence

/-- Whether a character is a control that blanks out space. -/
def isBlankControl (c : Char) : Bool :=
  c == '\t' || c == '\n' || c == '\x0c' || c == '\r'

/-- Whether a character shows outside any sequence. -/
def isShown (c : Char) : Bool :=
  isBlankControl c || (0x20 ≤ c.toNat && c.toNat != 0x7F)

/-- The shown characters of a text; after one that shows, all show up to the next that cannot. -/
def shownFrom (sequence : Sequence) (showing : Bool) : List Char → List Char
  | [] => []
  | c :: rest =>
    -- A run that shows goes on over characters that a sequence would take.
    let shows :=
      if showing || sequence == .ground then isShown c
      else sequence.passesBlanks && isBlankControl c
    if shows then c :: shownFrom (if c.toNat < 0x80 then sequence else .ground) true rest
    else shownFrom (sequence.next c) false rest

/-- A text without control sequences and without controls other than blanks. -/
def strip (text : String) : String :=
  String.ofList (shownFrom .ground false text.toList)

end TenantSessions.Text
