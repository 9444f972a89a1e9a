import TenantSessions.Text.Hidden

/-! Quoted texts show any characters, and any bytes, on one line between double quotes. -/

namespace TenantSessions.Text

/-- How a character stands between double quotes. -/
def escape (c : Char) : List Char :=
  if c = '\x00' then ['\\', '0']
  else if c = '\t' then ['\\', 't']
  else if c = '\r' then ['\\', 'r']
  else if c = '\n' then ['\\', 'n']
  else if c = '\\' then ['\\', '\\']
  else if c = '"' then ['\\', '"']
  else if isHidden c then ['\\', 'u', '\x7b'] ++ Nat.toDigits 16 c.toNat ++ ['\x7d']
  else [c]

/-- A text between double quotes. -/
def quote (text : String) : String :=
  String.ofList (['"'] ++ text.toList.flatMap escape ++ ['"'])

/-- Two upper-case hexadecimal digits. -/
def hexPair (byte : UInt8) : List Char :=
  [Nat.digitChar (byte.toNat / 16), Nat.digitChar (byte.toNat % 16)].map Char.toUpper

/-- Bytes from a position on: characters where they encode one, single bytes by number elsewhere. -/
def escapeBytes (bytes : ByteArray) (start : Nat) : List Char :=
  if inside : start < bytes.size then
    match bytes.utf8DecodeChar? start with
    | some c => escape c ++ escapeBytes bytes (start + c.utf8Size)
    -- A byte that is part of no character is shown by itself, and the next may open one again.
    | none => ['\\', 'x'] ++ hexPair bytes[start] ++ escapeBytes bytes (start + 1)
  else []
termination_by bytes.size - start
decreasing_by
  · have := c.utf8Size_pos
    omega
  · omega

/-- Bytes between double quotes. -/
def quoteBytes (bytes : ByteArray) : String :=
  String.ofList (['"'] ++ escapeBytes bytes 0 ++ ['"'])

end TenantSessions.Text
