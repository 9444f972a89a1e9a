import TenantSessions.Proofs.Cache.Ground
import TenantSessions.Proofs.Cache.Wire
import TenantSessions.Proofs.Lifetime

/-!
When a key disappears that has been limited. A lifetime counts by its milliseconds, rounded up; the
key is there with its fields as long as less time has passed, and gone from then on, whatever else
the cache is called for.
-/

namespace TenantSessions

/-- The time that a lifetime takes when it is rounded up to whole milliseconds. -/
def Lifetime.rounded (life : Lifetime) : Nat :=
  life.nanos ⌈/⌉ nanosPerMilli * nanosPerMilli

/-- A lifetime is over when its rounded time has passed. -/
theorem Lifetime.overAt_eq (life : Lifetime) (start : Instant) :
    life.overAt start = start + life.rounded := by
  rw [overAt, rounded, ← millis_eq_ceilDiv, Nat.mul_comm]

/-- What a lifetime counts as for an expiry command. -/
structure Lifetime.CountsExactly (life : Lifetime) : Prop where
  /-- It counts as its milliseconds, rounded up, if a command can carry as many. -/
  counted : ∀ millis, life.expiry = .ok millis ↔
    life.nanos ⌈/⌉ nanosPerMilli = millis ∧ millis ≤ maxMillis
  /-- Any other lifetime is refused as an error of the client. -/
  refused : ∀ fault, life.expiry = .error fault ↔
    maxMillis < life.nanos ⌈/⌉ nanosPerMilli ∧ fault = .lifetimeTooLong life
  clientConfig : ∀ fault, life.expiry = .error fault → fault.kind = .clientConfig
  /-- Words of 128 bits and a signed word of 64 bits come to the same number. -/
  words : ∀ word : Int64, life.expiryWord? = some word ↔
    ∃ millis : Nat, life.expiry = .ok millis ∧ word.toInt = millis
  /-- The signed word is not negative, and no other number as a word without a sign. -/
  unsigned : ∀ word : Int64, life.expiryWord? = some word →
    0 ≤ word.toInt ∧ (word.toUInt64.toNat : Int) = word.toInt
  /-- Nothing is lost, and less than a millisecond is gained. -/
  kept : ∀ millis, life.expiry = .ok millis →
    life.nanos ≤ millis * nanosPerMilli ∧ millis * nanosPerMilli < life.nanos + nanosPerMilli
  zero : ∀ millis, life.expiry = .ok millis → (millis = 0 ↔ life.nanos = 0)
  /-- Shorter lifetimes count as no more milliseconds, and are not refused. -/
  monotone : ∀ (longer : Lifetime) (most : Nat), life.nanos ≤ longer.nanos →
    longer.expiry = .ok most → ∃ millis ≤ most, life.expiry = .ok millis

/-- Every lifetime counts as just the milliseconds that it rounds up to. -/
theorem Lifetime.countsExactly (life : Lifetime) : life.CountsExactly where
  counted millis := by rw [expiry_eq_ok_iff, millis_eq_ceilDiv]
  refused fault := by rw [expiry_eq_error_iff, millis_eq_ceilDiv]
  clientConfig fault refused := by
    rw [(expiry_eq_error_iff.mp refused).2]
    rfl
  words word := expiryWord?_eq_some_iff
  unsigned word found := by
    -- A number that a command carries has its sign bit free.
    obtain ⟨millis, -, same⟩ := expiryWord?_eq_some_iff.mp found
    rw [Reply.toNat_toUInt64_of_counted same, same]
    exact ⟨Int.natCast_nonneg millis, rfl⟩
  kept millis counted := by
    obtain ⟨rfl, -⟩ := expiry_eq_ok_iff.mp counted
    rw [millis_eq, nanosPerMilli]
    omega
  zero millis counted := by
    obtain ⟨rfl, -⟩ := expiry_eq_ok_iff.mp counted
    rw [millis_eq]
    omega
  monotone longer most shorter counted := by
    obtain ⟨rfl, fits⟩ := expiry_eq_ok_iff.mp counted
    have fewer : life.millis ≤ longer.millis := by
      rw [millis_eq, millis_eq]
      omega
    exact ⟨life.millis, fewer, expiry_eq_ok_iff.mpr ⟨rfl, Nat.le_trans fewer fits⟩⟩

/-- Whether a command may change what is kept under a key. -/
def Command.Changes : Command → String → Prop
  | .write name _, key => key = name
  | .expire name _, key => key = name
  | .delete names, key => key ∈ names
  | _, _ => False

/-- Whether a call puts no command that may change what is kept under a key. -/
def Call.Spares (call : Call) (key : String) : Prop :=
  ∀ command, call = .put command → ¬ command.Changes key

/-- The time that passes by a call. -/
def Call.span : Call → Nat
  | .pass span => span.nanos
  | _ => 0

namespace Punctual

variable {shelf : Punctual} {key : String} {fields : Fields} {lapse : Instant}

/-- Whether a cache keeps fields under a key until an instant, and nothing from then on. -/
def KeepsUntil (shelf : Punctual) (key : String) (fields : Fields) (lapse : Instant) : Prop :=
  shelf.entries[key]? = if shelf.now < lapse then some ⟨fields, some lapse⟩ else none

/-- A command that may not change a key leaves it as it is. -/
theorem answer_of_unchanged {command : Command} (spared : ¬ command.Changes key)
    (shelf : Punctual) : (Cache.answer command shelf).2.entries[key]? = shelf.entries[key]? := by
  by_cases outage : command.kind ∈ shelf.failing
  · rw [answer_of_failing outage]
  rw [answer_eq outage]
  -- What looks at the key changes nothing, and what changes anything does not see the key.
  cases command with
  | write name pairs =>
    have unseen : ¬ (Command.write name pairs).Sees key := spared
    exact perform_frame unseen shelf
  | expire name life =>
    have unseen : ¬ (Command.expire name life).Sees key := spared
    exact perform_frame unseen shelf
  | delete names =>
    have unseen : ¬ (Command.delete names).Sees key := spared
    exact perform_frame unseen shelf
  | present => rfl
  | read => rfl
  | readAll => rfl
  | list => rfl

/-- No command moves the clock, whether it fails or not. -/
theorem answer_now (command : Command) (shelf : Punctual) :
    (Cache.answer command shelf).2.now = shelf.now :=
  (@answer_frame (fun _ => False) command (fun _ none => none.elim) shelf).now

/-- Time that passes takes a key away that is kept until an instant just if the instant comes. -/
theorem KeepsUntil.reach (keeps : shelf.KeepsUntil key fields lapse) {later : Instant}
    (forward : shelf.now ≤ later) : (shelf.reach later).KeepsUntil key fields lapse := by
  rw [KeepsUntil, getElem?_reach, keeps]
  -- An instant that has come lies behind for good, so what is gone stays gone.
  show _ = if later < lapse then _ else _
  by_cases there : later < lapse
  · have before : shelf.now < lapse := Nat.lt_of_le_of_lt forward there
    simp [before, there, Entry.hasLapsed, Option.filter]
  · rw [if_neg there]
    split
    · simp [Entry.hasLapsed, Nat.not_lt.mp there, Option.filter]
    · rfl

/-- A call that spares a key keeps it until the same instant, and the clock moves by the time that
passes. -/
theorem KeepsUntil.call? {call : Call} {left : call.Answer × Punctual}
    (keeps : shelf.KeepsUntil key fields lapse) (spares : call.Spares key)
    (called : Called.call? call shelf = some left) :
    left.2.KeepsUntil key fields lapse ∧ left.2.now = shelf.now + call.span := by
  -- Only commands change entries, and only time that passes moves the clock.
  cases call with
  | put command =>
    cases called
    refine ⟨?_, answer_now command shelf⟩
    rw [KeepsUntil, answer_of_unchanged (spares command rfl), answer_now]
    exact keeps
  | pass span =>
    obtain ⟨later, advanced, rfl⟩ := Option.map_eq_some_iff.mp called
    rw [advance?, Option.ite_none_right_eq_some] at advanced
    obtain ⟨-, reached⟩ := advanced
    cases reached
    exact ⟨keeps.reach (Nat.le_add_right _ _), rfl⟩
  | remaining => cases called; exact ⟨keeps, rfl⟩
  | holds => cases called; exact ⟨keeps, rfl⟩
  | field => cases called; exact ⟨keeps, rfl⟩
  | size => cases called; exact ⟨keeps, rfl⟩
  | fail => cases called; exact ⟨keeps, rfl⟩
  | heal => cases called; exact ⟨keeps, rfl⟩

/-- A course of calls that spare a key keeps it until the same instant, and the clock moves by all
the time that passes. -/
theorem KeepsUntil.course {calls : List Call} (spared : ∀ call ∈ calls, call.Spares key)
    (keeps : shelf.KeepsUntil key fields lapse) :
    ∀ later ∈ (Called.course shelf calls).2,
      later.KeepsUntil key fields lapse ∧ later.now = shelf.now + (calls.map Call.span).sum := by
  -- By induction on the calls, from whatever cache each of them finds.
  induction calls generalizing shelf with
  | nil =>
    intro later found
    cases found
    exact ⟨keeps, rfl⟩
  | cons call calls ih =>
    obtain ⟨first, others⟩ := List.forall_mem_cons.mp spared
    rw [Called.course]
    cases called : Called.call? call shelf with
    | none => simp
    | some left =>
      intro later found
      obtain ⟨still, moved⟩ := keeps.call? first called
      obtain ⟨kept, now⟩ := ih others still later found
      refine ⟨kept, ?_⟩
      rw [now, moved, List.map_cons, List.sum_cons, Nat.add_assoc]

end Punctual

namespace Memory

variable {memory left : Memory} {key : String} {entry : Entry} {life : Lifetime}

/-- How the limit of a live key ends that is not made to fail. What is refused leaves everything as
it was. -/
inductive Limiting (memory : Memory) (key : String) (entry : Entry) (life : Lifetime) :
    Except Fault Unit × Memory → Prop where
  | tooLong (long : Lifetime.maxMillis < life.nanos ⌈/⌉ nanosPerMilli) :
      Limiting memory key entry life (.error (.lifetimeTooLong life), memory)
  | tooLate (short : life.nanos ⌈/⌉ nanosPerMilli ≤ Lifetime.maxMillis)
      (late : Instant.horizon < memory.now + life.rounded) :
      Limiting memory key entry life (.error (.deadlineTooLate life), memory)
  /-- The key is there as long as less time has passed than the rounded lifetime. -/
  | limited {left : Memory} (short : life.nanos ⌈/⌉ nanosPerMilli ≤ Lifetime.maxMillis)
      (early : memory.now + life.rounded ≤ Instant.horizon)
      (lapses : ∀ calls later, (∀ call ∈ calls, Call.Spares call key) →
        later ∈ (Called.course left calls).2 →
          later.live[key]? = if (calls.map Call.span).sum < life.rounded then
            some ⟨entry.fields, some (memory.now + life.rounded)⟩ else none) :
      Limiting memory key entry life (.ok (), left)

/-- A live key that has been limited is kept with its fields until the lifetime is over. -/
theorem keepsUntil_of_limited (found : memory.live[key]? = some entry)
    (answered : Cache.answer (.expire key life) memory = (.ok (), left)) :
    left.punctual.KeepsUntil key entry.fields (memory.now + life.rounded) ∧
      left.now = memory.now := by
  obtain ⟨-, -, -, rfl⟩ := answer_expire_iff.mp answered
  have shown : memory.punctual.entries[key]? = some entry := found
  have now : memory.punctual.now = memory.now := rfl
  have moved : (memory.setDeadline key (life.overAt memory.now)).punctual.now = memory.now := by
    rw [punctual_setDeadline, Punctual.setDeadline_now, now]
  refine ⟨?_, moved⟩
  rw [Punctual.KeepsUntil, moved, punctual_setDeadline, Punctual.getElem?_setDeadline, if_pos rfl,
    shown, now, life.overAt_eq]
  -- A deadline that is not still to come takes the key away at once.
  by_cases ahead : memory.now < memory.now + life.rounded
  · rw [if_neg (Nat.not_le.mpr ahead), if_pos ahead]
    rfl
  · rw [if_pos (Nat.not_lt.mp ahead), if_neg ahead]

/-- A live key that has been limited is there as long as less time has passed than the rounded
lifetime, whatever the cache is called for that spares the key. -/
theorem live_of_limited (found : memory.live[key]? = some entry)
    (answered : Cache.answer (.expire key life) memory = (.ok (), left)) (calls : List Call)
    (later : Memory) (spared : ∀ call ∈ calls, Call.Spares call key)
    (reached : later ∈ (Called.course left calls).2) :
    later.live[key]? = if (calls.map Call.span).sum < life.rounded then
      some ⟨entry.fields, some (memory.now + life.rounded)⟩ else none := by
  obtain ⟨keeps, now⟩ := keepsUntil_of_limited found answered
  -- The punctual cache takes the same course, and shows what is live at its end.
  have viewed := Called.course_view (fun call memory => call?_punctual call memory) calls left
  have shown : later.punctual ∈ (Called.course left.punctual calls).2 := by
    rw [viewed]
    exact Option.mem_map_of_mem _ reached
  obtain ⟨kept, moved⟩ := keeps.course spared later.punctual shown
  have clock : later.punctual.now = memory.now + (calls.map Call.span).sum := by
    rw [moved, ← now]
    rfl
  simp only [Punctual.KeepsUntil, clock, Nat.add_lt_add_iff_left] at kept
  exact kept

/-- Every lifetime counts as just the milliseconds that it rounds up to, unless it is refused. In a
cache where limits are not made to fail, a live key that is limited disappears just when so many
milliseconds have passed, or else nothing has changed. -/
theorem lapses_exactly (life : Lifetime) :
    life.CountsExactly ∧ ∀ (memory : Memory) (key : String) (entry : Entry),
      .expire ∉ memory.failing → memory.live[key]? = some entry →
        memory.Limiting key entry life (Cache.answer (.expire key life) memory) := by
  refine ⟨life.countsExactly, fun memory key entry unfailing found => ?_⟩
  have performed : Cache.answer (.expire key life) memory = memory.expire key life :=
    if_neg unfailing
  rw [performed, expire_eq, life.overAt_eq]
  -- The command refuses before the clock does, and what neither refuses is limited.
  by_cases long : Lifetime.maxMillis < life.millis
  · rw [if_pos long]
    exact .tooLong (life.millis_eq_ceilDiv ▸ long)
  rw [if_neg long]
  have short : life.nanos ⌈/⌉ nanosPerMilli ≤ Lifetime.maxMillis :=
    life.millis_eq_ceilDiv ▸ Nat.not_lt.mp long
  by_cases late : Instant.horizon < memory.now + life.rounded
  · rw [if_pos late]
    exact .tooLate short late
  rw [if_neg late]
  have early : memory.now + life.rounded ≤ Instant.horizon := Nat.not_lt.mp late
  refine .limited short early (live_of_limited found ?_)
  exact answer_expire_iff.mpr ⟨unfailing, Nat.not_lt.mp long, life.overAt_eq _ ▸ early,
    life.overAt_eq _ ▸ rfl⟩

/-- A lifetime of one nanosecond more than a millisecond. -/
def brief : Lifetime where
  nanos := 1000001
  bounded := by decide

/-- A cache in which one key has been written. -/
def furnished : Memory :=
  Memory.empty.write "h" [("a", "1")]

/-- Almost two milliseconds, in which the key is read. -/
def almost : List Call :=
  [.pass ⟨1000000, by decide⟩, .put (.readAll "h"), .pass ⟨999999, by decide⟩]

/-- Two milliseconds, in which another key is written. -/
def enough : List Call :=
  [.pass ⟨1999999, by decide⟩, .put (.write "g" [("a", "1")]), .pass ⟨1, by decide⟩]

/-- A lifetime of little more than a millisecond lasts for two, to the nanosecond, and reading the
key or writing another does not prolong it. -/
theorem lapses_exactly_brief :
    brief.expiry = .ok 2 ∧ ∃ entry left, furnished.live["h"]? = some entry ∧
      Cache.answer (.expire "h" brief) furnished = (.ok (), left) ∧
      (∃ later ∈ (Called.course left almost).2, "h" ∈ later.live) ∧
      ∃ later ∈ (Called.course left enough).2, "h" ∉ later.live := by
  obtain ⟨counts, limits⟩ := lapses_exactly brief
  have found : furnished.live["h"]? = some ⟨.ofPairs [("a", "1")], none⟩ := by
    rw [getElem?_live]
    rfl
  have answered : Cache.answer (.expire "h" brief) furnished =
      (.ok (), furnished.setDeadline "h" (brief.overAt furnished.now)) :=
    answer_expire_iff.mpr ⟨by decide, by decide, by decide, rfl⟩
  have ended := limits furnished "h" _ (by decide) found
  rw [answered] at ended
  refine ⟨(counts.counted 2).mpr ⟨by decide, by decide⟩, _, _, found, answered, ?_⟩
  have sparedAlmost : ∀ call ∈ almost, call.Spares "h" := by
    simp [almost, Call.Spares, Command.Changes]
  have sparedEnough : ∀ call ∈ enough, call.Spares "h" := by
    simp [enough, Call.Spares, Command.Changes]
  cases ended with
  | limited short early lapses =>
    constructor
    · have kept := lapses almost _ sparedAlmost rfl
      rw [if_pos (by decide)] at kept
      exact ⟨_, rfl, Std.ExtTreeMap.mem_iff_isSome_getElem?.mpr (by rw [kept]; rfl)⟩
    · have gone := lapses enough _ sparedEnough rfl
      rw [if_neg (by decide)] at gone
      exact ⟨_, rfl, by simp [Std.ExtTreeMap.mem_iff_isSome_getElem?, gone]⟩

end Memory

end TenantSessions
