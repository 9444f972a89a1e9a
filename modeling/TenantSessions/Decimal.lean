import TenantSessions.Text.Cut

/-! Whole numbers are written in decimal and read back within the limits of their type. -/

namespace TenantSessions

/-- Why a text names no whole number in range. -/
inductive Decimal.Flaw where
  | empty
  | strayCharacter
  | tooLarge
  | tooSmall
deriving DecidableEq, Repr

/-- What a reader is told about a text that names no number. -/
def Decimal.Flaw.message : Decimal.Flaw → String
  | .empty => "cannot parse integer from empty string"
  | .strayCharacter => "invalid digit found in string"
  | .tooLarge => "number too large to fit in target type"
  | .tooSmall => "number too small to fit in target type"

namespace Decimal

/-- Appends digits to a running value; the first character that is no digit or passes the limit
decides. -/
def readDigits (limit : Nat) (beyond : Flaw) : Nat → List Char → Except Flaw Nat
  | value, [] => .ok value
  | value, c :: rest =>
    if c.isDigit then
      -- The limit is looked at after each digit, so a stray character behind it goes unnoticed.
      let next := 10 * value + (c.toNat - '0'.toNat)
      if next ≤ limit then readDigits limit beyond next rest else .error beyond
    else .error .strayCharacter

/-- The digits that follow a sign or open a number; there is at least one. -/
def readMagnitude (limit : Nat) (beyond : Flaw) : List Char → Except Flaw Nat
  | [] => .error .strayCharacter
  | c :: rest => readDigits limit beyond 0 (c :: rest)

/-- The largest number that a word of 64 bits holds. -/
def maxWord : Nat := 18446744073709551615

/-- The largest number that a signed word of 64 bits holds; the smallest lies one further from zero.
-/
def maxInteger : Nat := 9223372036854775807

/-- Reads a number without a minus sign that a word holds. -/
def readWord : List Char → Except Flaw UInt64
  | [] => .error .empty
  | '+' :: digits => (readMagnitude maxWord .tooLarge digits).map UInt64.ofNat
  | digits => (readMagnitude maxWord .tooLarge digits).map UInt64.ofNat

/-- Reads a number of either sign that a signed word holds. -/
def readInteger : List Char → Except Flaw Int64
  | [] => .error .empty
  -- The smallest number has no counterpart among those that are not negative.
  | '-' :: digits =>
    (readMagnitude (maxInteger + 1) .tooSmall digits).map fun value => Int64.ofInt (-(value : Int))
  | '+' :: digits =>
    (readMagnitude maxInteger .tooLarge digits).map fun value => Int64.ofInt value
  | digits => (readMagnitude maxInteger .tooLarge digits).map fun value => Int64.ofInt value

/-- The shortest decimal text of a number, with a minus sign where it is negative. -/
def write (value : Int64) : String :=
  value.toInt.repr

/-- Drops a sign. -/
def dropSign : List Char → List Char
  | '+' :: rest => rest
  | '-' :: rest => rest
  | text => text

/-- Whether a text is an exponent behind its letter, or nothing. -/
def isExponent : List Char → Bool
  | [] => true
  | mark :: rest =>
    let digits := dropSign rest
    mark.toLower == 'e' && !digits.isEmpty && digits.all Char.isDigit

/-- Whether a text is a number of any kind: with a fraction, an exponent, both or neither, or one of
the names for what is no ordinary number. -/
def isNumber (text : List Char) : Bool :=
  -- Of the digits before and behind the point either may lack, but not both.
  let bare := dropSign text
  let (whole, rest) := Text.cutAt (!·.isDigit) bare
  let (fraction, rest) :=
    match rest with
    | '.' :: rest => Text.cutAt (!·.isDigit) rest
    | _ => ([], rest)
  ["inf", "infinity", "nan"].contains (String.ofList bare).toLower ||
    (!(whole.isEmpty && fraction.isEmpty) && isExponent rest)

end Decimal

end TenantSessions
