import TenantSessions.Decimal
import TenantSessions.Text.Encoded

/-! A host has a name, or a number of eight groups that stands in brackets. -/

namespace TenantSessions

/-- What a host is addressed by. -/
inductive Host where
  | name (text : String)
  | number (groups : List Nat)
deriving DecidableEq, Repr

namespace Host

/-- Whether a character has no place in the name of a host. -/
def isForbidden (c : Char) : Bool :=
  "\x00\t\n\r #/:<>?@[\\]^|".toList.contains c

/-- Reads a group: one to four hexadecimal digits. -/
def readGroup? (text : List Char) : Option Nat :=
  if text.isEmpty || 4 < text.length then none else Text.ofDigits? 16 text

/-- Reads a number that fits a byte, without zeros in front. -/
def readOctet? (text : List Char) : Option Nat :=
  match text with
  | '0' :: _ :: _ => none
  | _ => (Decimal.readMagnitude 255 .tooLarge text).toOption

/-- Reads four such numbers with points between them, which make two groups. -/
def readDotted? (text : List Char) : Option (List Nat) := do
  match ← (text.splitOn '.').mapM readOctet? with
  | [first, second, third, fourth] => return [256 * first + second, 256 * third + fourth]
  | _ => none

/-- Reads groups; at the end of a number the last ones may be dotted. -/
def readGroups? (atEnd : Bool) : List (List Char) → Option (List Nat)
  | [] => some []
  | [last] =>
    match readGroup? last with
    | some group => some [group]
    -- Only the end of a number may be written as four bytes.
    | none => if atEnd then readDotted? last else none
  | text :: texts => do return (← readGroup? text) :: (← readGroups? atEnd texts)

/-- Cuts a number at its first two colons in a row, which stand for groups that are zero. -/
def cutZeros? : List Char → Option (List Char × List Char)
  | ':' :: ':' :: rest => some ([], rest)
  | c :: rest => (cutZeros? rest).map fun (before, after) => (c :: before, after)
  | [] => none

/-- The texts between the colons of a text. -/
def split (text : List Char) : List (List Char) :=
  if text.isEmpty then [] else text.splitOn ':'

/-- How many groups a number has. -/
def groupCount : Nat := 8

/-- Reads the number of a host. -/
def readNumber? (text : List Char) : Option (List Nat) :=
  match cutZeros? text with
  | none => (readGroups? true (split text)).filter (·.length == groupCount)
  | some (before, after) => do
    let first ← readGroups? false (split before)
    let last ← readGroups? true (split after)
    -- The two colons stand for at least one group.
    let missing := groupCount - (first.length + last.length)
    if missing = 0 then none else return first ++ List.replicate missing 0 ++ last

/-- Reads a host, of which a name may be empty. -/
def read? (text : List Char) : Option Host :=
  match text with
  | '[' :: rest =>
    match rest.reverse with
    | ']' :: inside => (readNumber? inside.reverse).map Host.number
    | _ => none
  | _ => if text.any isForbidden then none else some (.name (String.ofList text))

end Host

end TenantSessions
