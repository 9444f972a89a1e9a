import TenantSessions.Proofs.Cache.Listing
import TenantSessions.Proofs.Record

/-!
Everything that a cache in memory can be called for, in a course of calls of any length while time
passes. That lapsed keys stay in memory until someone looks at them cannot be told from any answer:
the cache answers every course as the punctual cache does, whose laws are written out here.
-/

namespace TenantSessions

/-- A call to a cache: a command, a question that is no command, an outage or its end, or time that
passes. -/
inductive Call where
  | put (command : Command)
  | remaining (key : String)
  | holds (key : String)
  | field (key field : String)
  | size
  | fail (kind : Command.Kind)
  | heal
  | pass (span : Lifetime)
deriving DecidableEq, Repr

/-- What a call is answered. -/
@[reducible] def Call.Answer : Call → Type
  | .put command => Except Fault command.Answer
  | .remaining _ => Option Instant
  | .holds _ => Bool
  | .field .. => Option String
  | .size => Nat
  | .fail _ => Unit
  | .heal => Unit
  | .pass _ => Unit

/-- A cache that takes every call, unless its clock cannot name the instant that is asked for. -/
class Called (σ : Type) where
  call? : (call : Call) → σ → Option (call.Answer × σ)

/-- What is seen of a call. -/
inductive Seen where
  | answered (call : Call) (answer : call.Answer)
  /-- The clock cannot name the instant, and the program stops. -/
  | stopped

namespace Called

/-- What is seen in a course of calls, and the cache behind the last of them, unless the clock has
stopped the program. -/
def course {σ : Type} [Called σ] (state : σ) : List Call → List Seen × Option σ
  | [] => ([], some state)
  | call :: calls =>
    match call? call state with
    | none => ([.stopped], none)
    | some (answer, next) =>
      (.answered call answer :: (course next calls).1, (course next calls).2)

variable {σ τ : Type} [Called σ] [Called τ]

/-- A view of a cache that keeps every answer keeps what is seen in every course. -/
theorem course_view {view : σ → τ}
    (square : ∀ call state, call? call (view state) =
      (call? call state).map fun left => (left.1, view left.2))
    (calls : List Call) (state : σ) :
    course (view state) calls = ((course state calls).1, (course state calls).2.map view) := by
  -- Each call is answered alike and leaves the view of what it leaves, so the rest is alike too.
  induction calls generalizing state with
  | nil => rfl
  | cons call calls ih =>
    simp only [course, square]
    cases call? call state with
    | none => rfl
    | some left => simp only [Option.map_some, ih]

/-- What every call preserves is preserved by a course. -/
theorem course_preserves {holds : σ → Prop}
    (step : ∀ call state left, holds state → call? call state = some left → holds left.2)
    (calls : List Call) (state : σ) (start : holds state) :
    ∀ left ∈ (course state calls).2, holds left := by
  induction calls generalizing state with
  | nil =>
    intro left found
    cases found
    exact start
  | cons call calls ih =>
    simp only [course]
    cases called : call? call state with
    | none => simp
    | some next => exact ih next.2 (step call state next start called)

end Called

instance : Called Memory where
  call?
    | .put command, memory => some (Cache.answer command memory)
    | .remaining key, memory => some (memory.remaining key)
    | .holds key, memory => some (memory.holds key)
    | .field key field, memory => some (memory.field? key field)
    | .size, memory => some memory.size
    | .fail kind, memory => some ((), memory.fail kind)
    | .heal, memory => some ((), memory.heal)
    | .pass span, memory => (memory.advance? span).map ((), ·)

/-- A punctual cache is asked for what it keeps, and no question changes it. -/
instance : Called Punctual where
  call?
    | .put command, shelf => some (Cache.answer command shelf)
    | .remaining key, shelf =>
      some (shelf.entries[key]?.bind fun entry => entry.deadline.map (· - shelf.now), shelf)
    | .holds key, shelf => some (shelf.entries.contains key, shelf)
    | .field key field, shelf =>
      some (shelf.entries[key]?.bind fun entry => entry.fields[field]?, shelf)
    | .size, shelf => some (shelf.entries.size, shelf)
    | .fail kind, shelf => some ((), { shelf with failing := kind :: shelf.failing })
    | .heal, shelf => some ((), { shelf with failing := [] })
    | .pass span, shelf => (shelf.advance? span).map ((), ·)

namespace Memory

/-- A cache in memory answers every call as its punctual cache does, and shows afterwards what that
cache is left with. -/
theorem call?_punctual (call : Call) (memory : Memory) :
    Called.call? call memory.punctual =
      (Called.call? call memory).map fun left => (left.1, left.2.punctual) := by
  have shown : memory.punctual.entries = memory.live := rfl
  have now : memory.punctual.now = memory.now := rfl
  -- A question touches its key first, and sees what is live there.
  cases call with
  | put command => exact congrArg some (answer_punctual command memory)
  | remaining key => simp [Called.call?, remaining, getElem?_touch, shown, now]
  | holds key =>
    simp only [Called.call?, holds, Std.ExtTreeMap.contains_eq_isSome_getElem?, getElem?_touch,
      shown, Option.map_some, punctual_touch]
  | field key field => simp [Called.call?, field?, getElem?_touch, shown]
  | size =>
    simp only [Called.call?, size, Option.map_some, punctual_sweep]
    rfl
  | fail kind => rfl
  | heal => rfl
  | pass span =>
    simp only [Called.call?, advance?_punctual, Option.map_map]
    rfl

end Memory

namespace Punctual

/-- A punctual cache that keeps nothing, and in which no command fails. -/
def empty : Punctual where
  entries := ∅
  failing := []
  now := Instant.setUp

/-- The laws of a cache from which every key disappears when its deadline comes. -/
structure Lawful (shelf : Punctual) : Prop where
  /-- A key that is there has its deadline still before it. -/
  unlapsed : ∀ (key : String) (entry : Entry), shelf.entries[key]? = some entry →
    ∀ deadline ∈ entry.deadline, shelf.now < deadline
  /-- When time passes, just the keys disappear whose deadlines come. -/
  lapse : ∀ span later, shelf.advance? span = some later →
    later.now = shelf.now + span.nanos ∧ later.failing = shelf.failing ∧
      ∀ (key : String) (entry : Entry), later.entries[key]? = some entry ↔
        shelf.entries[key]? = some entry ∧ ∀ deadline ∈ entry.deadline, later.now < deadline
  /-- What is asked of a key is answered by what is there, and changes nothing. -/
  present : ∀ key, .present ∉ shelf.failing →
    Cache.answer (.present key) shelf = (.ok shelf.entries[key]?.isSome, shelf)
  read : ∀ key field, .read ∉ shelf.failing → Cache.answer (.read key field) shelf =
    (.ok (shelf.entries[key]?.bind fun entry => entry.fields[field]?), shelf)
  readAll : ∀ key, .readAll ∉ shelf.failing → ∃ fields : Fields,
    (∀ name : String,
      fields[name]? = shelf.entries[key]?.bind fun entry => entry.fields[name]?) ∧
      Cache.answer (.readAll key) shelf = (.ok fields, shelf)
  /-- A write to a key that is not there starts from no fields, and without a deadline. Of several
  pairs of one name the last one counts. -/
  writeFresh : ∀ key pairs, .write ∉ shelf.failing → shelf.entries[key]? = none →
    ∃ fields : Fields, (∀ name : String, fields[name]? = pairs.reverse.lookup name) ∧
      Cache.answer (.write key pairs) shelf =
        (.ok (), { shelf with entries := shelf.entries.insert key ⟨fields, none⟩ })
  /-- A write to a key that is there keeps its deadline and the fields that the pairs do not name.
  -/
  writeLive : ∀ key pairs entry, .write ∉ shelf.failing → shelf.entries[key]? = some entry →
    ∃ fields : Fields,
      (∀ name : String,
        fields[name]? = (pairs.reverse.lookup name).or entry.fields[name]?) ∧
      Cache.answer (.write key pairs) shelf =
        (.ok (), { shelf with entries := shelf.entries.insert key ⟨fields, entry.deadline⟩ })
  /-- A lifetime that fits the command and the clock sets the deadline of a key that is there. -/
  limit : ∀ key entry life, .expire ∉ shelf.failing → shelf.entries[key]? = some entry →
    0 < life.millis → life.millis ≤ Lifetime.maxMillis →
    life.overAt shelf.now ≤ Instant.horizon →
    Cache.answer (.expire key life) shelf =
      (.ok (), { shelf with
        entries := shelf.entries.insert key ⟨entry.fields, some (life.overAt shelf.now)⟩ })
  /-- A lifetime of no milliseconds takes the key away at once. -/
  limitZero : ∀ key life, .expire ∉ shelf.failing → life.millis = 0 →
    Cache.answer (.expire key life) shelf =
      (.ok (), { shelf with entries := shelf.entries.erase key })
  /-- A lifetime for a key that is not there changes nothing. -/
  limitAbsent : ∀ key life, shelf.entries[key]? = none →
    (Cache.answer (.expire key life) shelf).2 = shelf
  /-- The time left to a key that has a deadline is positive, and ends with the deadline. -/
  remaining : ∀ key entry deadline, shelf.entries[key]? = some entry →
    entry.deadline = some deadline → ∃ left, 0 < left ∧ shelf.now + left = deadline ∧
      Called.call? (.remaining key) shelf = some (some left, shelf)
  /-- A deletion takes the keys that are named, and counts each of them that was there once. -/
  delete : ∀ keys, .delete ∉ shelf.failing →
    ∃ removed : List String, removed.Nodup ∧
      (∀ key, key ∈ removed ↔ key ∈ keys ∧ key ∈ shelf.entries) ∧
      ∃ left, Cache.answer (.delete keys) shelf = (.ok removed.length, left) ∧
        left.failing = shelf.failing ∧ left.now = shelf.now ∧
        ∀ key, left.entries[key]? = if key ∈ keys then none else shelf.entries[key]?
  /-- A listing answers the keys that its pattern accepts in strictly ascending order. -/
  list : ∀ pattern, .list ∉ shelf.failing →
    ∃ keys : List String, keys.Pairwise (· < ·) ∧
      (∀ key, key ∈ keys ↔ key ∈ shelf.entries ∧ Glob.accepts pattern key = true) ∧
      Cache.answer (.list pattern) shelf = (.ok keys, shelf)
  /-- The size is the number of the keys that are there. -/
  size : ∃ keys : List String, keys.Nodup ∧ (∀ key, key ∈ keys ↔ key ∈ shelf.entries) ∧
    Called.call? .size shelf = some (keys.length, shelf)
  /-- What is answered by a fault changes nothing. -/
  unchanged : ∀ command fault left,
    Cache.answer command shelf = (.error fault, left) → left = shelf

/-- An entry has not lapsed exactly if its deadline, if it has one, is still to come. -/
theorem hasLapsed_eq_false_iff (entry : Entry) (now : Instant) :
    entry.hasLapsed now = false ↔ ∀ deadline ∈ entry.deadline, now < deadline := by
  rw [Entry.hasLapsed]
  cases entry.deadline with
  | none => simp
  | some deadline => simp

variable {shelf : Punctual}

/-- A command that is not made to fail answers what performing it answers. -/
theorem answer_eq {command : Command} (unfailing : command.kind ∉ shelf.failing) :
    Cache.answer command shelf = shelf.perform command :=
  if_neg unfailing

/-- A command that answers a fault has changed nothing. -/
theorem eq_of_fault {command : Command} {fault : Fault} {left : Punctual}
    (answered : Cache.answer command shelf = (.error fault, left)) : left = shelf := by
  by_cases outage : command.kind ∈ shelf.failing
  · rw [answer_of_failing outage] at answered
    exact (Prod.mk.inj answered).2.symm
  rw [answer_eq outage] at answered
  -- Of the commands that are performed only a limit can answer a fault.
  cases command with
  | expire key life =>
    rw [perform, expire] at answered
    split at answered
    · exact (Prod.mk.inj answered).2.symm
    · split at answered
      · exact (Prod.mk.inj answered).2.symm
      · cases (Prod.mk.inj answered).1
  | write => cases (Prod.mk.inj answered).1
  | present => cases (Prod.mk.inj answered).1
  | read => cases (Prod.mk.inj answered).1
  | readAll => cases (Prod.mk.inj answered).1
  | list => cases (Prod.mk.inj answered).1
  | delete => cases (Prod.mk.inj answered).1

/-- No command moves the clock. -/
theorem perform_now (shelf : Punctual) (command : Command) :
    (shelf.perform command).2.now = shelf.now := by
  cases command with
  | expire key life =>
    rw [perform]
    rcases shelf.expire_left key life with same | limited
    · rw [same]
    · rw [limited, setDeadline_now]
  | write => rfl
  | present => rfl
  | read => rfl
  | readAll => rfl
  | list => rfl
  | delete => rfl

/-- Whatever is called for, the clock can name the instant afterwards. -/
theorem named_of_call? (call : Call) (shelf : Punctual) (left : call.Answer × Punctual)
    (named : shelf.now ≤ Instant.horizon) (called : Called.call? call shelf = some left) :
    left.2.now ≤ Instant.horizon := by
  -- Only where time passes does the clock move, and it goes no further than it can name.
  cases call with
  | pass span =>
    obtain ⟨later, advanced, rfl⟩ := Option.map_eq_some_iff.mp called
    rw [advance?, Option.ite_none_right_eq_some] at advanced
    obtain ⟨inside, reached⟩ := advanced
    cases reached
    exact inside
  | put command =>
    cases called
    by_cases outage : command.kind ∈ shelf.failing
    · rw [answer_of_failing outage]
      exact named
    · rw [answer_eq outage, perform_now]
      exact named
  | remaining => cases called; exact named
  | holds => cases called; exact named
  | field => cases called; exact named
  | size => cases called; exact named
  | fail => cases called; exact named
  | heal => cases called; exact named

/-- Limiting a key that is there sets its deadline, if the lifetime fits the command and the clock.
-/
theorem expire_of_fits {key : String} {life : Lifetime}
    (short : life.millis ≤ Lifetime.maxMillis) (early : life.overAt shelf.now ≤ Instant.horizon) :
    shelf.expire key life = (.ok (), shelf.setDeadline key (life.overAt shelf.now)) := by
  rw [expire, if_neg (Nat.not_lt.mpr short), if_neg (Nat.not_lt.mpr early)]

/-- Limiting a key that is not there changes nothing. -/
theorem expire_of_absent {key : String} (absent : shelf.entries[key]? = none) (life : Lifetime) :
    (shelf.expire key life).2 = shelf := by
  rw [expire]
  split
  · rfl
  · split
    · rfl
    · simp only [setDeadline, absent]

/-- A punctual cache is lawful if its keys are there before their deadlines and its clock can name
the instant. -/
theorem lawful (unlapsed : ∀ (key : String) (entry : Entry), shelf.entries[key]? = some entry →
    entry.hasLapsed shelf.now = false) (named : shelf.now ≤ Instant.horizon) : shelf.Lawful where
  unlapsed key entry found := (hasLapsed_eq_false_iff ..).mp (unlapsed key entry found)
  lapse span later advanced := by
    rw [advance?, Option.ite_none_right_eq_some] at advanced
    obtain ⟨-, reached⟩ := advanced
    cases reached
    refine ⟨rfl, rfl, fun key entry => ?_⟩
    rw [getElem?_reach, Option.filter_eq_some_iff, ← hasLapsed_eq_false_iff]
    simp [reach]
  present key unfailing := by
    rw [answer_eq unfailing, perform, Std.ExtTreeMap.contains_eq_isSome_getElem?]
  read key field unfailing := answer_eq unfailing
  readAll key unfailing := by
    refine ⟨_, fun name => ?_, answer_eq unfailing⟩
    cases shelf.entries[key]? with
    | none => exact Std.ExtTreeMap.getElem?_empty
    | some entry => rfl
  writeFresh key pairs unfailing absent := by
    refine ⟨.ofPairs pairs, fun name => ?_, ?_⟩
    · rw [Fields.ofPairs, Fields.getElem?_write, Std.ExtTreeMap.getElem?_empty, Option.or_none]
    · rw [answer_eq unfailing, perform, write, absent]
      rfl
  writeLive key pairs entry unfailing found := by
    refine ⟨entry.fields.write pairs, Fields.getElem?_write entry.fields pairs, ?_⟩
    rw [answer_eq unfailing, perform, write, found]
    rfl
  limit key entry life unfailing found positive short early := by
    have later : ¬ life.overAt shelf.now ≤ shelf.now := by
      rw [life.overAt_le]
      omega
    rw [answer_eq unfailing, perform, expire_of_fits short early, setDeadline]
    simp only [found, if_neg later]
  limitZero key life unfailing zero := by
    have lapsed : life.overAt shelf.now ≤ shelf.now := (life.overAt_le _).mpr zero
    have short : life.millis ≤ Lifetime.maxMillis := zero ▸ Nat.zero_le _
    rw [answer_eq unfailing, perform, expire_of_fits short (Nat.le_trans lapsed named), setDeadline]
    cases found : shelf.entries[key]? with
    | none => rw [Memory.erase_eq_self found]
    | some entry => simp only [if_pos lapsed]
  limitAbsent key life absent := by
    by_cases outage : (Command.expire key life).kind ∈ shelf.failing
    · rw [answer_of_failing outage]
    · rw [answer_eq outage]
      exact expire_of_absent absent life
  remaining key entry deadline found limited := by
    have ahead := (hasLapsed_eq_false_iff ..).mp (unlapsed key entry found) deadline limited
    refine ⟨deadline - shelf.now, Nat.sub_pos_of_lt ahead,
      Nat.add_sub_cancel' (Nat.le_of_lt ahead), ?_⟩
    simp [Called.call?, found, limited]
  delete keys unfailing := by
    refine ⟨(shelf.entries.filter fun key _ => key ∈ keys).keys, Std.ExtTreeMap.nodup_keys, ?_,
      shelf.delete keys, ?_, rfl, rfl, shelf.getElem?_delete keys⟩
    · intro key
      rw [Std.ExtTreeMap.keys_filter_key, List.mem_filter, Std.ExtTreeMap.mem_keys]
      simp [and_comm]
    · rw [answer_eq unfailing, perform, Std.ExtTreeMap.length_keys]
  list pattern unfailing := by
    refine ⟨shelf.entries.keys.filter (Glob.accepts pattern),
      (Memory.ascending_keys _).filter _, ?_, answer_eq unfailing⟩
    intro key
    rw [List.mem_filter, Std.ExtTreeMap.mem_keys]
  size := by
    refine ⟨shelf.entries.keys, Std.ExtTreeMap.nodup_keys, fun key => Std.ExtTreeMap.mem_keys, ?_⟩
    rw [Std.ExtTreeMap.length_keys]
    rfl
  unchanged command fault left answered := eq_of_fault answered

end Punctual

namespace Memory

/-- A new cache in memory shows a new punctual cache. -/
theorem punctual_empty : Memory.empty.punctual = Punctual.empty := by
  have nothing : Memory.empty.live = ∅ := by
    apply Std.ExtTreeMap.ext_getElem?
    intro key
    simp [getElem?_live, Memory.empty]
  rw [punctual, nothing]
  rfl

/-- Whatever a new cache in memory is called for, while time passes and commands are made to fail,
every answer is that of a new punctual cache, which keeps to its laws. -/
theorem answers_punctually (calls : List Call) :
    (Called.course Memory.empty calls).1 = (Called.course Punctual.empty calls).1 ∧
      ∀ shelf ∈ (Called.course Punctual.empty calls).2, shelf.Lawful := by
  have viewed := Called.course_view (fun call memory => call?_punctual call memory) calls
    Memory.empty
  rw [punctual_empty] at viewed
  obtain ⟨answers, left⟩ := Prod.mk.inj viewed
  refine ⟨answers.symm, fun shelf found => ?_⟩
  have named : shelf.now ≤ Instant.horizon :=
    Called.course_preserves Punctual.named_of_call? calls Punctual.empty (by decide) shelf found
  -- The punctual cache shows what is live in memory, and nothing live has lapsed.
  rw [left] at found
  obtain ⟨memory, -, rfl⟩ := Option.map_eq_some_iff.mp found
  exact Punctual.lawful (fun key entry live => hasLapsed_of_live live) named

/-- A key that is written twice before it lapses, and once more when it has lapsed but before anyone
has looked at it. -/
def revived : List Call :=
  [.put (.write "h" [("a", "1"), ("b", "1")]), .put (.expire "h" (.ofSeconds 2)),
    .put (.write "h" [("b", "2"), ("c", "3")]), .pass (.ofSeconds 1), .remaining "h",
    .field "h" "a", .field "h" "b", .put (.read "h" "c"), .pass (.ofSeconds 1),
    .put (.write "h" [("c", "4")]), .remaining "h", .field "h" "a", .put (.read "h" "c")]

/-- The second write keeps the deadline and the field that it does not name; after the third one
there is nothing but what it has written. So it is for the punctual cache as in memory, and the laws
hold of what is left. -/
theorem answers_punctually_revived :
    (Called.course Punctual.empty revived).1 =
        [.answered (.put (.write "h" [("a", "1"), ("b", "1")])) (.ok ()),
          .answered (.put (.expire "h" (.ofSeconds 2))) (.ok ()),
          .answered (.put (.write "h" [("b", "2"), ("c", "3")])) (.ok ()),
          .answered (.pass (.ofSeconds 1)) (),
          .answered (.remaining "h") (some (1000000000 : Nat)),
          .answered (.field "h" "a") (some "1"),
          .answered (.field "h" "b") (some "2"),
          .answered (.put (.read "h" "c")) (.ok (some "3")),
          .answered (.pass (.ofSeconds 1)) (),
          .answered (.put (.write "h" [("c", "4")])) (.ok ()),
          .answered (.remaining "h") none,
          .answered (.field "h" "a") none,
          .answered (.put (.read "h" "c")) (.ok (some "4"))] ∧
      ∃ shelf ∈ (Called.course Punctual.empty revived).2, shelf.Lawful := by
  obtain ⟨alike, lawful⟩ := answers_punctually revived
  refine ⟨?_, _, rfl, lawful _ rfl⟩
  -- In memory the key is touched, and what is seen there is what the punctual cache shows.
  rw [← alike]
  rfl

end Memory

end TenantSessions
