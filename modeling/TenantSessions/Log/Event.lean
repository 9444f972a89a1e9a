import TenantSessions.Text.Cut

/-! Log events tell what was done, under the name of the part of the program that did it. -/

namespace TenantSessions

/-- How much an event matters, the weightiest first. -/
inductive LogLevel where
  | error
  | warn
  | info
  | debug
  | trace
deriving DecidableEq, Repr

namespace LogLevel

/-- How log lines name a level. -/
def label : LogLevel → String
  | .error => "ERROR"
  | .warn => "WARN"
  | .info => "INFO"
  | .debug => "DEBUG"
  | .trace => "TRACE"

/-- The place of a level in their order, from one. -/
def verbosity : LogLevel → Nat
  | .error => 1
  | .warn => 2
  | .info => 3
  | .debug => 4
  | .trace => 5

end LogLevel

/-- One thing to log: what happened, and the values it happened with, as they are shown. -/
structure LogEvent where
  level : LogLevel
  source : String
  text : String
  values : List (String × String)
deriving DecidableEq, Repr

namespace LogEvent

/-- The values of an event, each after its name. -/
def details (event : LogEvent) : String :=
  String.join (event.values.map fun value => " " ++ value.1 ++ "=" ++ value.2)

/-- The line of an event, without its source. -/
def shortLine (event : LogEvent) : String :=
  event.level.label ++ " " ++ event.text ++ event.details

/-- How the text of an event shows a character, so that none reaches a terminal as a command. -/
def guard (c : Char) : List Char :=
  -- Line ends and tabs are left alone, as they command nothing.
  if c = '\x1b' then "\\x1b".toList
  else if c = '\x07' then "\\x07".toList
  else if c = '\x08' then "\\x08".toList
  else if c = '\x0c' then "\\x0c".toList
  else if c = '\x7f' then "\\x7f".toList
  else if 0x80 ≤ c.toNat ∧ c.toNat ≤ 0x9F then
    ['\\', 'u', '\x7b'] ++ Nat.toDigits 16 c.toNat ++ ['\x7d']
  else [c]

/-- The lines of an event: one, and another for each line end in its text. -/
def lines (event : LogEvent) : List String :=
  Text.lines (event.level.label ++ " " ++ event.source ++ ": " ++
    String.ofList (event.text.toList.flatMap guard) ++ event.details)

end LogEvent

end TenantSessions
