/-! Digits of any base spell numbers, percent signs spell bytes, and bytes are read as text where
they encode it, and elsewhere refused or replaced. -/

namespace TenantSessions.Text

/-- The value of a hexadecimal digit; those behind nine are letters. -/
def hexValue? (c : Char) : Option Nat :=
  if c.isDigit then some (c.toNat - '0'.toNat)
  else if 'a' ≤ c.toLower ∧ c.toLower ≤ 'f' then some (c.toLower.toNat - 'a'.toNat + 10)
  else none

/-- The number that digits of a base spell; no digits spell zero. -/
def ofDigits? (base : Nat) (digits : List Char) : Option Nat :=
  -- A digit that the base does not have spoils the number.
  digits.foldlM (fun value c => (hexValue? c).bind fun digit =>
    if digit < base then some (base * value + digit) else none) 0

/-- The bytes of a text, where a percent sign and two hexadecimal digits spell one byte. -/
def percentDecode : List Char → List UInt8
  | '%' :: high :: low :: rest =>
    match hexValue? high, hexValue? low with
    | some high, some low => UInt8.ofNat (16 * high + low) :: percentDecode rest
    -- A percent sign that spells nothing stands for itself, and what follows is read anew.
    | _, _ => String.utf8EncodeChar '%' ++ percentDecode (high :: low :: rest)
  | c :: rest => String.utf8EncodeChar c ++ percentDecode rest
  | [] => []

/-- The text that some bytes encode, if they encode one. -/
def decode? (bytes : List UInt8) : Option String :=
  String.fromUTF8? ⟨bytes.toArray⟩

/-- The ranges of the bytes that complete a character, after its first byte. -/
def followers (first : UInt8) : List (UInt8 × UInt8) :=
  let any : UInt8 × UInt8 := (0x80, 0xBF)
  -- The second byte has less room where what is spelled has a shorter spelling or is no character.
  if 0xC2 ≤ first ∧ first ≤ 0xDF then [any]
  else if first = 0xE0 then [(0xA0, 0xBF), any]
  else if first = 0xED then [(0x80, 0x9F), any]
  else if 0xE1 ≤ first ∧ first ≤ 0xEF then [any, any]
  else if first = 0xF0 then [(0x90, 0xBF), any, any]
  else if 0xF1 ≤ first ∧ first ≤ 0xF3 then [any, any, any]
  else if first = 0xF4 then [(0x80, 0x8F), any, any]
  else []

/-- How many bytes from a position on lie in given ranges, before the first that does not. -/
def countWithin (bytes : ByteArray) (start : Nat) : List (UInt8 × UInt8) → Nat
  | [] => 0
  | (low, high) :: ranges =>
    match bytes[start]? with
    | some byte =>
      if low ≤ byte ∧ byte ≤ high then countWithin bytes (start + 1) ranges + 1 else 0
    | none => 0

/-- The character that stands for bytes that encode none. -/
def replacement : Char := '\ufffd'

/-- The characters from a position on; each longest start of a character that is not completed
reads as one replacement. -/
def decodeFrom (bytes : ByteArray) (start : Nat) : List Char :=
  if inside : start < bytes.size then
    match bytes.utf8DecodeChar? start with
    | some c => c :: decodeFrom bytes (start + c.utf8Size)
    -- What began a character and belongs to it so far is replaced together with its first byte.
    | none =>
      replacement ::
        decodeFrom bytes (start + 1 + countWithin bytes (start + 1) (followers bytes[start]))
  else []
termination_by bytes.size - start
decreasing_by
  · have := c.utf8Size_pos
    omega
  · omega

/-- The text that some bytes encode, with replacements where they encode none. -/
def decode (bytes : List UInt8) : String :=
  String.ofList (decodeFrom ⟨bytes.toArray⟩ 0)

end TenantSessions.Text
