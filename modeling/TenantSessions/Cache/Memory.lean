import TenantSessions.Dialogue
import TenantSessions.Glob

/-!
A cache in memory keeps fields under keys until a deadline passes on its clock. A key whose deadline
has passed is dropped when a command next looks at it, and no command ever sees it.
-/

namespace TenantSessions

/-- A point of time, in nanoseconds since the clock of the machine began to run. -/
abbrev Instant := Nat

namespace Instant

/-- The last instant that a clock can name. -/
def horizon : Instant :=
  9223372036854775807 * nanosPerSecond + (nanosPerSecond - 1)

/-- The instant at which a cache is set up, when the clock has been running for a day. -/
def setUp : Instant :=
  Lifetime.day.nanos

/-- What a program says that stops because its clock cannot name an instant. -/
def beyondHorizon : String :=
  "overflow when adding duration to instant"

end Instant

/-- What is kept under one key: its fields, and the instant at which it lapses. -/
structure Entry where
  fields : Fields
  deadline : Option Instant
deriving DecidableEq

namespace Entry

/-- An entry without fields or a deadline. -/
def blank : Entry where
  fields := ∅
  deadline := none

/-- Whether the deadline of an entry has come. -/
def hasLapsed (entry : Entry) (now : Instant) : Bool :=
  entry.deadline.any (· ≤ now)

end Entry

/-- A cache in memory, with the kinds of commands that are made to fail and its clock. -/
structure Memory where
  entries : Std.ExtTreeMap String Entry
  failing : List Command.Kind
  now : Instant

namespace Memory

/-- A cache that keeps nothing, and in which no command fails. -/
def empty : Memory where
  entries := ∅
  failing := []
  now := Instant.setUp

/-- Makes commands of a kind fail from now on. -/
def fail (memory : Memory) (kind : Command.Kind) : Memory :=
  { memory with failing := kind :: memory.failing }

/-- Lets all commands succeed again. -/
def heal (memory : Memory) : Memory :=
  { memory with failing := [] }

/-- Lets time pass, unless the clock cannot name the instant at which it would have passed. -/
def advance? (memory : Memory) (span : Lifetime) : Option Memory :=
  -- Nothing is dropped yet: deadlines that come are noticed when a key is next looked at.
  let now := memory.now + span.nanos
  if now ≤ Instant.horizon then some { memory with now := now } else none

/-- Drops a key whose deadline has come. -/
def touch (memory : Memory) (key : String) : Memory :=
  match memory.entries[key]? with
  | some entry =>
    if entry.hasLapsed memory.now then { memory with entries := memory.entries.erase key }
    else memory
  | none => memory

/-- Drops every key whose deadline has come. -/
def sweep (memory : Memory) : Memory :=
  { memory with entries := memory.entries.filter fun _ entry => !entry.hasLapsed memory.now }

/-- The entries that commands see: those whose deadline has not come. -/
def live (memory : Memory) : Std.ExtTreeMap String Entry :=
  memory.sweep.entries

/-- A key is live with its entry until the deadline of the entry comes. -/
theorem getElem?_live (memory : Memory) (key : String) :
    memory.live[key]? =
      memory.entries[key]?.filter fun entry => !entry.hasLapsed memory.now := by
  simp [live, sweep]

/-- Touching a key takes nothing away that commands see. -/
theorem live_touch (memory : Memory) (key : String) : (memory.touch key).live = memory.live := by
  -- Only a key that has lapsed is dropped, and such a key is live on neither side.
  apply Std.ExtTreeMap.ext_getElem?
  intro other
  unfold touch
  split
  · rename_i entry found
    split
    · rename_i lapsed
      simp only [getElem?_live, Std.ExtTreeMap.getElem?_erase]
      by_cases same : key = other
      · subst same
        simp [found, lapsed, Option.filter]
      · simp [same]
    · rfl
  · rfl

/-- A key that has been touched is there exactly if it is live. -/
theorem getElem?_touch (memory : Memory) (key : String) :
    (memory.touch key).entries[key]? = memory.live[key]? := by
  -- Touching and looking for what is live ask the same about the deadline.
  rw [getElem?_live]
  unfold touch
  split
  · rename_i entry found
    split
    · rename_i lapsed
      simp [found, lapsed, Option.filter]
    · rename_i alive
      simp [found, alive, Option.filter]
  · rename_i missing
    simp [missing]

/-- Writes fields over those that a key has. -/
def write (memory : Memory) (key : String) (pairs : List (String × String)) : Memory :=
  -- What has lapsed is dropped first, or its fields would come back to life.
  let memory := memory.touch key
  let entry := memory.entries[key]?.getD .blank
  let entry := { entry with fields := entry.fields.write pairs }
  { memory with entries := memory.entries.insert key entry }

/-- Sets the instant at which a key lapses, if there is such a key. -/
def setDeadline (memory : Memory) (key : String) (deadline : Instant) : Memory :=
  let memory := memory.touch key
  match memory.entries[key]? with
  | some entry =>
    { memory with entries := memory.entries.insert key { entry with deadline := some deadline } }
  | none => memory

/-- Lets a key lapse when a lifetime has passed from now. -/
def expire (memory : Memory) (key : String) (life : Lifetime) : Except Fault Unit × Memory :=
  match life.expiry with
  | .error fault => (.error fault, memory)
  | .ok millis =>
    -- The clock counts nanoseconds, the command whole milliseconds.
    let deadline := memory.now + millis * nanosPerMilli
    if deadline ≤ Instant.horizon then (.ok (), memory.setDeadline key deadline)
    else (.error (.deadlineTooLate life), memory)

/-- Deletes keys one after the other and counts those that were there. -/
def delete (memory : Memory) : List String → Nat × Memory
  | [] => (0, memory)
  | key :: keys =>
    let memory := memory.touch key
    -- A key that is named twice is gone the second time, and counts once.
    if memory.entries.contains key then
      let rest := delete { memory with entries := memory.entries.erase key } keys
      (rest.1 + 1, rest.2)
    else delete memory keys

/-- Performs a command that is not made to fail. -/
def perform (memory : Memory) : (command : Command) → Except Fault command.Answer × Memory
  | .write key pairs => (.ok (), memory.write key pairs)
  | .expire key life => memory.expire key life
  | .present key =>
    let memory := memory.touch key
    (.ok (memory.entries.contains key), memory)
  | .read key field =>
    let memory := memory.touch key
    (.ok (memory.entries[key]?.bind fun entry => entry.fields[field]?), memory)
  | .readAll key =>
    let memory := memory.touch key
    (.ok (memory.entries[key]?.elim ∅ Entry.fields), memory)
  | .list pattern =>
    -- Listing looks at every key, so all that has lapsed is dropped.
    let memory := memory.sweep
    (.ok (memory.entries.keys.filter (Glob.accepts pattern)), memory)
  | .delete keys =>
    let (removed, memory) := memory.delete keys
    (.ok removed, memory)

instance : Cache Memory where
  answer command memory :=
    -- A command that is made to fail touches no key.
    if command.kind ∈ memory.failing then (.error (.injected command.kind), memory)
    else memory.perform command

/-- The time that a key has left, if it is there and has a deadline. -/
def remaining (memory : Memory) (key : String) : Option Instant × Memory :=
  let memory := memory.touch key
  (memory.entries[key]?.bind fun entry => entry.deadline.map (· - memory.now), memory)

/-- Whether a key is there, asked without a command. -/
def holds (memory : Memory) (key : String) : Bool × Memory :=
  let memory := memory.touch key
  (memory.entries.contains key, memory)

/-- A field of a key, asked without a command. -/
def field? (memory : Memory) (key field : String) : Option String × Memory :=
  let memory := memory.touch key
  (memory.entries[key]?.bind fun entry => entry.fields[field]?, memory)

/-- How many keys are there. -/
def size (memory : Memory) : Nat × Memory :=
  let memory := memory.sweep
  (memory.entries.size, memory)

/-- The fields and the time left of each key in turn. -/
def inspectAll (memory : Memory) :
    List String → Except Fault (List (String × Fields × Option Instant)) × Memory
  | [] => (.ok [], memory)
  | key :: keys =>
    match Cache.answer (.readAll key) memory with
    | (.error fault, memory) => (.error fault, memory)
    | (.ok fields, memory) =>
      let (left, memory) := memory.remaining key
      match inspectAll memory keys with
      | (.error fault, memory) => (.error fault, memory)
      | (.ok rest, memory) => (.ok ((key, fields, left) :: rest), memory)

/-- The fields and the time left of every key that the pattern `*` lists. -/
def inspect (memory : Memory) :
    Except Fault (List (String × Fields × Option Instant)) × Memory :=
  match Cache.answer (.list "*") memory with
  | (.error fault, memory) => (.error fault, memory)
  | (.ok keys, memory) => memory.inspectAll keys

end Memory

end TenantSessions
