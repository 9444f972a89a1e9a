import TenantSessions.CommandLine.Arguments
import TenantSessions.Address
import TenantSessions.Cache.Link
import TenantSessions.Log.Filter

/-! The command line tool: one order, served over one link, told in log lines and an exit status. -/

namespace TenantSessions.CommandLine

/-- How the tool ends: its status, what it prints, the commands that it sent, and the first line of
what it says besides if it was not used well. -/
structure Outcome where
  status : Nat
  printed : List String
  sent : List Command
  complaint : Option String
deriving DecidableEq, Repr

/-- The status of an order that was served, and of help. -/
def succeeded : Nat := 0

/-- The status of an order that failed. -/
def failed : Nat := 1

/-- The status of a wrong command line. -/
def misused : Nat := 2

/-- The status of a program that stopped by itself. -/
def stopped : Nat := 101

/-- The filter that the environment names; without one, events are shown up to information. -/
def logFilter? (environment : Environment) : Option LogFilter :=
  LogFilter.read ((environment.logFilter.bind String.fromUTF8?).getD "info")

/-- An outcome that prints some lines, without anything sent. -/
def shown (status : Nat) (lines : List String) : Outcome where
  status := status
  printed := lines
  sent := []
  complaint := none

/-- The outcome of a program that stopped before it did anything. -/
def halted : Outcome :=
  shown stopped []

/-- The lines of those events that a filter shows. -/
def told (filter : LogFilter) (events : List LogEvent) : List String :=
  (events.filter filter.shows).flatMap LogEvent.lines

/-- The outcome of a wrong command line; what was said of the filter comes before the complaint. -/
def refused (filter : LogFilter) (misuse : Misuse) : Outcome :=
  { shown misused [] with
    -- Only what comes first is told, so a note on the filter hides the misuse.
    complaint := (filter.notes ++ [misuse.complaint]).head?.map Text.firstLine }

/-- Serves an order over a link with given settings. -/
def serve (filter : LogFilter) (settings : Settings) (order : Order) (link : Link) : Outcome :=
  let request := order.request settings
  let (answer, registrar) := (Registrar.new link (some settings.bindingLife)).serve request
  let (status, event) :=
    match answer with
    | .ok answer => (succeeded, successEvent request answer)
    | .error failure => (failed, failureEvent failure.message)
  { shown status (told filter (registrar.cache.log ++ [event])) with
    sent := registrar.cache.sent }

/-- Takes its settings from the environment, checks the address, and serves an order over the link
to it. -/
def perform (environment : Environment) (filter : LogFilter) (order : Order)
    (connect : Address → Link) : Outcome :=
  let refuse (text : String) : Outcome := shown failed (told filter [failureEvent text])
  match Settings.load environment with
  -- This is no failure that is reported; the program stops where it stands.
  | .error .hoursOverflow => halted
  | .error flaw => refuse ("Failed to load configuration: " ++ flaw.message)
  | .ok settings =>
    match Address.read settings.address with
    | .error flaw => refuse ("Failed to create Redis client: " ++ flaw.message)
    | .ok address => serve filter settings order (connect address)

/-- Runs the tool with its arguments, which it reads after the filter. -/
def run (environment : Environment) (arguments : List String) (connect : Address → Link) :
    Outcome :=
  -- The filter is read first, so a flaw in it stops even a call for help.
  match logFilter? environment with
  | none => halted
  | some filter =>
    match readArguments arguments with
    | .error misuse => refused filter misuse
    | .ok (.help topic) => shown succeeded topic.lines
    | .ok .version => shown succeeded versionLines
    | .ok (.order order) => perform environment filter order connect

end TenantSessions.CommandLine
