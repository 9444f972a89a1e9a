/-! A lifetime is a length of time, exact to the nanosecond, that a cache counts in whole
milliseconds. -/

namespace TenantSessions

/-- The nanoseconds of one second. -/
def nanosPerSecond : Nat := 1000000000

/-- The nanoseconds of one millisecond. -/
def nanosPerMilli : Nat := 1000000

/-- A length of time whose whole seconds fit a 64-bit word. -/
structure Lifetime where
  nanos : Nat
  bounded : nanos < UInt64.size * nanosPerSecond
deriving DecidableEq, Repr

namespace Lifetime

/-- The lifetime of whole seconds and a part of a second. -/
def ofParts (seconds : UInt64) (part : Fin nanosPerSecond) : Lifetime where
  nanos := seconds.toNat * nanosPerSecond + part
  bounded := by
    -- The part stays below a second, so the whole seconds are the ones that were given.
    have whole := seconds.toNat_lt
    have below := part.isLt
    unfold nanosPerSecond UInt64.size at *
    omega

/-- The lifetime of whole seconds. -/
def ofSeconds (seconds : UInt64) : Lifetime :=
  ofParts seconds ⟨0, by decide⟩

/-- One day, which is how long the binding of an API token lives unless a registrar says otherwise.
-/
def day : Lifetime :=
  ofSeconds 86400

/-- The whole seconds of a lifetime. -/
def seconds (life : Lifetime) : Nat :=
  life.nanos / nanosPerSecond

/-- The nanoseconds that the whole seconds leave over. -/
def subsecond (life : Lifetime) : Nat :=
  life.nanos % nanosPerSecond

/-- The milliseconds of a lifetime, rounded up so that nothing expires early. -/
def millis (life : Lifetime) : Nat :=
  life.nanos / nanosPerMilli + if life.nanos % nanosPerMilli = 0 then 0 else 1

/-- The most milliseconds that an expiry command can carry. -/
def maxMillis : Nat := 9223372036854775807

/-- Nine digits of a part of a second, without the zeros at their end. -/
def fractionDigits (part : Nat) : List Char :=
  -- The second that is added keeps the zeros at the front, and is dropped again.
  ((Nat.toDigits 10 (nanosPerSecond + part)).drop 1).reverse.dropWhile (· == '0') |>.reverse

/-- Seconds, and a decimal fraction where there is one, as in `1.5s`. -/
def text (life : Lifetime) : String :=
  let fraction :=
    if life.subsecond = 0 then "" else "." ++ String.ofList (fractionDigits life.subsecond)
  life.seconds.repr ++ fraction ++ "s"

end Lifetime

end TenantSessions
