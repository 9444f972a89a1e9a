import TenantSessions.Address
import TenantSessions.Cache.Link

/-! On an isolated machine, without a network and without servers of its own, no link comes about;
the address decides why. -/

namespace TenantSessions

namespace Host

/-- Reads a part of a short number, in the base that its first characters tell. -/
def readPart? (text : List Char) : Option Nat :=
  match text with
  | [] => none
  -- A zero in front tells the base, and behind an x there must be a digit.
  | '0' :: mark :: digits =>
    if mark.toLower = 'x' then
      if digits.isEmpty then none else Text.ofDigits? 16 digits
    else Text.ofDigits? 8 (mark :: digits)
  | _ => Text.ofDigits? 10 text

/-- Whether a number fits into bytes that are left, up to four. -/
def fits (bytes number : Nat) : Bool :=
  match [0, 0x100, 0x10000, 0x1000000, 0x100000000][bytes]? with
  | some limit => number < limit
  | none => false

/-- Whether a text is a short number: up to four parts between points, of which the last fills the
bytes that the others leave. -/
def isShortNumber (text : List Char) : Bool :=
  match (text.splitOn '.').reverse.mapM readPart? with
  | some (last :: others) =>
    others.length < 4 && others.all (fits 1) && fits (4 - others.length) last
  | _ => false

/-- Whether a text can be the name of a machine, with or without a point behind it. -/
def isMachineName (text : List Char) : Bool :=
  -- One point at the end stands for the root of all names.
  let bare := if text.getLast? = some '.' then text.dropLast else text
  let isLabel (label : List Char) : Bool :=
    !label.isEmpty && label.length ≤ 63 &&
      label.all fun c => c.isAlphanum || c == '-' || c == '_'
  text.head? != some '-' && bare.length ≤ 253 && (bare.isEmpty || (bare.splitOn '.').all isLabel)

/-- Why no connection to a host comes about on an isolated machine. Only numbers of some kinds need
no number of the machine's own, and only names need a network to be found. -/
def isolation : Host → Outage
  | .number [0, 0, 0, 0, 0, 0xFFFF, _, _] => .unreachable
  | .number groups =>
    -- The first group tells groups of receivers, links of the machine, and everything else apart.
    let first := groups.headD 0
    if 0xFF00 ≤ first then .unreachable
    else if 0xFE80 ≤ first && first ≤ 0xFEBF then .ambiguous
    else .unaddressed
  | .name text =>
    let name := text.toLower.toList
    if name == Address.localHost.toList || isShortNumber name then .unreachable
    else if isMachineName name then .unresolved
    else .unnamed

end Host

namespace Address

/-- The length from which on the path of a socket is too long. -/
def pathLimit : Nat := 108

/-- Whether a path leads to the root: all its steps stay in place or lead upwards. -/
def namesRoot (path : List UInt8) : Bool :=
  let dot := '.'.toUInt8
  (path.splitOn '/'.toUInt8).all fun step => [[], [dot], [dot, dot]].contains step

/-- Why no connection to an address comes about on an isolated machine. The root is the one path
that surely leads to something, which is no socket. -/
def isolation : Address → Outage
  | .server host .. => host.isolation
  | .socket path .. =>
    -- The path is checked before it is followed.
    if path.contains 0 then .invalidPath
    else if pathLimit ≤ path.length then .pathTooLong
    else if namesRoot path then .refused
    else .missingFile

end Address

/-- The link from an isolated machine to an address. -/
def Link.isolated (replies : List Reply) (address : Address) : Link :=
  .down address.isolation replies

end TenantSessions
