import TenantSessions.Expression.Mode
import TenantSessions.Text.Encoded

/-! Signs are the smallest parts of expressions: single characters, and what a backslash makes of
the characters behind it. -/

namespace TenantSessions.Expression

/-- What a sign stands for. -/
inductive Sign where
  /-- The character itself, which may have been written as the number of a byte. -/
  | literal (c : Char) (asByte : Bool)
  /-- A digit, a blank or a character of words, or any other character than these. -/
  | kind (negated : Bool)
  /-- The start or the end of the text. -/
  | edge
  /-- The start or the end of a word, or any place but these. -/
  | wordEdge
deriving DecidableEq, Repr

/-- The last character that is a single byte. -/
def lastByte : Char := '\x7f'

/-- Whether an expression may have a sign; cases and classes are known of bytes alone, and no byte
may be matched that is no character by itself. -/
def Mode.admits (mode : Mode) : Sign → Bool
  | .literal c asByte => if mode.unicode then !mode.caseless else !asByte || c ≤ lastByte
  | .kind negated => !mode.unicode && !negated
  | .edge => true
  | .wordEdge => true

/-- Whether a set may have a sign as a member. -/
def Mode.admitsMember (mode : Mode) : Sign → Bool
  | .literal c _ => if mode.unicode then !mode.caseless else c ≤ lastByte
  | .kind negated => !mode.unicode && !negated
  | .edge => false
  | .wordEdge => false

namespace Sign

/-- What a backslash makes of one character. -/
def ofEscaped? (c : Char) : Option Sign :=
  match c with
  | 'a' => some (.literal '\x07' false)
  | 'f' => some (.literal '\x0c' false)
  | 'n' => some (.literal '\n' false)
  | 'r' => some (.literal '\r' false)
  | 't' => some (.literal '\t' false)
  | 'v' => some (.literal '\x0b' false)
  | _ =>
    if ['d', 's', 'w'].contains c then some (.kind false)
    else if ['D', 'S', 'W'].contains c then some (.kind true)
    else if ['A', 'z'].contains c then some .edge
    else if ['b', 'B', '<', '>'].contains c then some .wordEdge
    -- Any other mark stands for itself; letters and digits are kept for later meanings.
    else if c ≤ lastByte && !c.isAlphanum then some (.literal c false)
    else none

/-- Reads so many hexadecimal digits, after each of which blanks may be skipped. -/
def readDigits (mode : Mode) (value : Nat) : Nat → List Char → Option (Nat × List Char)
  | 0, text => some (value, text)
  | _ + 1, [] => none
  | count + 1, c :: rest => do
    let digit ← Text.hexValue? c
    readDigits mode (16 * value + digit) count (mode.skip rest)

/-- Reads the number of a character, which has so many digits. -/
def readNumber (mode : Mode) (count : Nat) (text : List Char) : Option (Sign × List Char) := do
  let (value, rest) ← readDigits mode 0 count (mode.skip text)
  -- Only a number of two digits may be meant as that of a byte.
  if value.isValidChar then return (.literal (Char.ofNat value) (count == 2), rest) else none

/-- Reads what follows a backslash. -/
def readEscaped (mode : Mode) : List Char → Option (Sign × List Char)
  | [] => none
  | 'x' :: rest => readNumber mode 2 rest
  | 'u' :: rest => readNumber mode 4 rest
  | 'U' :: rest => readNumber mode 8 rest
  | c :: rest => (ofEscaped? c).map (·, rest)

end Sign

end TenantSessions.Expression
