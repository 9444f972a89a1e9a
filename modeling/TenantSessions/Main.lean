import TenantSessions.Cache.Isolation
import TenantSessions.CommandLine.Tool

/-!
The program. It carries no network of its own and works as on an isolated machine: it reads its
arguments and settings in full and then reports the outage.
-/

namespace TenantSessions.CommandLine

/-- The bytes of an environment variable. -/
def readVariable (name : String) : IO (Option ByteArray) := do
  return (← IO.getEnv name).map String.toUTF8

/-- The environment of the process. -/
def readEnvironment : IO Environment := do
  return {
    address := ← readVariable "REDIS_URL"
    sessionHours := ← readVariable "SESSION_TTL"
    bindingHours := ← readVariable "API_TOKEN_TTL"
    logFilter := ← readVariable "RUST_LOG" }

end TenantSessions.CommandLine

open TenantSessions in
/-- Runs the tool once, with its complaint on standard error and all else on standard output. -/
def main (arguments : List String) : IO UInt32 := do
  let outcome := CommandLine.run (← CommandLine.readEnvironment) arguments (Link.isolated [])
  for line in outcome.printed do
    IO.println line
  for line in outcome.complaint.toList do
    IO.eprintln line
  return UInt32.ofNat outcome.status
