import TenantSessions.Decimal
import TenantSessions.Lifetime
import TenantSessions.Text.Cut
import TenantSessions.Text.Quoted

/-! Settings are read from environment variables: the address of the cache, and two lifetimes in
hours. -/

namespace TenantSessions

/-- The variables that the program reads, as raw bytes where they are set. -/
structure Environment where
  address : Option ByteArray
  sessionHours : Option ByteArray
  bindingHours : Option ByteArray
  logFilter : Option ByteArray

/-- What the program is set up with. -/
structure Settings where
  address : String
  sessionSeconds : UInt64
  bindingSeconds : UInt64
deriving DecidableEq, Repr

namespace Settings

/-- Why there are no settings. -/
inductive Flaw where
  | addressMissing
  | addressNotText (raw : ByteArray)
  /-- So many hours that their seconds fit no word; the program stops at once. -/
  | hoursOverflow

/-- How messages describe why there are no settings. -/
def Flaw.message : Flaw → String
  | .addressMissing => "environment variable not found"
  | .addressNotText raw => "environment variable was not valid unicode: " ++ Text.quoteBytes raw
  | .hoursOverflow => "attempt to multiply with overflow"

/-- The hours that a lifetime has unless a variable says otherwise. -/
def defaultHours : UInt64 := 24

/-- Reads hours such as `12` or `12h`, with blanks around them. -/
def readHours (text : String) : Option UInt64 :=
  -- Any number of marks for hours may stand at the end, and blanks only outside of them.
  (Decimal.readWord (Text.dropEnd (· == 'h') (Text.trim text.toList))).toOption

/-- The hours of a text, or the default where there is no text or it names none. -/
def hoursOr (default : UInt64) (text : Option String) : UInt64 :=
  (text.bind readHours).getD default

/-- The hours of a variable; one that is no text counts as not set. -/
def hoursOf (raw : Option ByteArray) : UInt64 :=
  hoursOr defaultHours (raw.bind String.fromUTF8?)

/-- The seconds of some hours, if they fit a word. -/
def secondsOf (hours : UInt64) : Except Flaw UInt64 :=
  -- The product is formed where it cannot wrap around, to see whether it would.
  if hours.toNat * 3600 < UInt64.size then .ok (hours * 3600) else .error .hoursOverflow

/-- The address of the cache as text. -/
def addressOf (raw : Option ByteArray) : Except Flaw String :=
  match raw with
  | none => .error .addressMissing
  | some raw =>
    match String.fromUTF8? raw with
    | some address => .ok address
    | none => .error (.addressNotText raw)

/-- Reads the settings; a flaw of the address is found before a flaw of the hours. -/
def load (environment : Environment) : Except Flaw Settings := do
  let address ← addressOf environment.address
  let sessionSeconds ← secondsOf (hoursOf environment.sessionHours)
  let bindingSeconds ← secondsOf (hoursOf environment.bindingHours)
  return { address := address, sessionSeconds := sessionSeconds, bindingSeconds := bindingSeconds }

/-- How long sessions live unless a command says otherwise. -/
def sessionLife (settings : Settings) : Lifetime :=
  Lifetime.ofSeconds settings.sessionSeconds

/-- How long the bindings of API tokens live. -/
def bindingLife (settings : Settings) : Lifetime :=
  Lifetime.ofSeconds settings.bindingSeconds

end Settings

end TenantSessions
