import TenantSessions.Cache.Memory

/-!
A punctual cache drops a key at the very instant its deadline comes, whoever looks or does not look
at it. A cache in memory answers as the punctual cache does that keeps just its live entries.
-/

namespace TenantSessions

/-- A lifetime that an expiry command can carry has its milliseconds as expiry. -/
theorem Lifetime.expiry_of_short (life : Lifetime) (short : life.millis ≤ maxMillis) :
    life.expiry = .ok life.millis := by
  rw [expiry, if_pos short]

/-- A lifetime that no expiry command can carry has no expiry. -/
theorem Lifetime.expiry_of_long (life : Lifetime) (long : maxMillis < life.millis) :
    life.expiry = .error (.lifetimeTooLong life) := by
  rw [expiry, if_neg (Nat.not_le.mpr long)]

/-- The instant at which a lifetime is over that begins at another, in whole milliseconds. -/
def Lifetime.overAt (life : Lifetime) (start : Instant) : Instant :=
  start + nanosPerMilli * life.millis

/-- A lifetime is over when it begins exactly if it has no milliseconds. -/
theorem Lifetime.overAt_le (life : Lifetime) (start : Instant) :
    life.overAt start ≤ start ↔ life.millis = 0 := by
  -- The length of a millisecond is written out, so that the comparison is one of numbers.
  have added (start : Nat) : start + 1000000 * life.millis ≤ start ↔ life.millis = 0 := by omega
  exact added start

/-- A cache from which a key disappears when its deadline comes. -/
structure Punctual where
  entries : Std.ExtTreeMap String Entry
  failing : List Command.Kind
  now : Instant

namespace Punctual

/-- Writes fields over those that a key has. -/
def write (shelf : Punctual) (key : String) (pairs : List (String × String)) : Punctual :=
  -- A key that is there keeps its deadline, and a new one has none.
  let entry := shelf.entries[key]?.getD .blank
  { shelf with
    entries := shelf.entries.insert key { entry with fields := entry.fields.write pairs } }

/-- Sets the deadline of a key, if there is such a key; a deadline that has come takes it away. -/
def setDeadline (shelf : Punctual) (key : String) (deadline : Instant) : Punctual :=
  match shelf.entries[key]? with
  | none => shelf
  | some entry =>
    if deadline ≤ shelf.now then { shelf with entries := shelf.entries.erase key }
    else
      { shelf with entries := shelf.entries.insert key { entry with deadline := some deadline } }

/-- Lets a key lapse when a lifetime has passed from now. -/
def expire (shelf : Punctual) (key : String) (life : Lifetime) : Except Fault Unit × Punctual :=
  -- The command refuses a lifetime before the clock is asked for its end.
  if Lifetime.maxMillis < life.millis then (.error (.lifetimeTooLong life), shelf)
  else if Instant.horizon < life.overAt shelf.now then (.error (.deadlineTooLate life), shelf)
  else (.ok (), shelf.setDeadline key (life.overAt shelf.now))

/-- Deletes keys. -/
def delete (shelf : Punctual) (keys : List String) : Punctual :=
  { shelf with entries := shelf.entries.filter fun key _ => key ∉ keys }

/-- Performs a command that is not made to fail. -/
def perform (shelf : Punctual) : (command : Command) → Except Fault command.Answer × Punctual
  | .write key pairs => (.ok (), shelf.write key pairs)
  | .expire key life => shelf.expire key life
  | .present key => (.ok (shelf.entries.contains key), shelf)
  | .read key field => (.ok (shelf.entries[key]?.bind fun entry => entry.fields[field]?), shelf)
  | .readAll key => (.ok (shelf.entries[key]?.elim ∅ Entry.fields), shelf)
  | .list pattern => (.ok (shelf.entries.keys.filter (Glob.accepts pattern)), shelf)
  | .delete keys =>
    (.ok (shelf.entries.filter fun key _ => key ∈ keys).size, shelf.delete keys)

instance : Cache Punctual where
  answer command shelf :=
    if command.kind ∈ shelf.failing then (.error (.injected command.kind), shelf)
    else shelf.perform command

/-- The cache at a later instant, when the deadlines until then have come. -/
def reach (shelf : Punctual) (later : Instant) : Punctual :=
  { shelf with entries := shelf.entries.filter fun _ entry => !entry.hasLapsed later, now := later }

/-- A command of a kind that is made to fail is answered by that, and the cache stays as it is. -/
theorem answer_of_failing {shelf : Punctual} {command : Command}
    (outage : command.kind ∈ shelf.failing) :
    Cache.answer command shelf = (.error (.injected command.kind), shelf) :=
  if_pos outage

/-- A command of a kind that is made to fail fails, and the cache stays as it is. -/
theorem hold_put_of_failing {shelf : Punctual} {command : Command}
    (outage : command.kind ∈ shelf.failing) (stage : Stage) :
    (Dialogue.put command stage).hold shelf =
      (.error (.cache stage (.injected command.kind)), shelf) := by
  -- The failure comes before the command is looked at.
  rw [Dialogue.hold_put, answer_of_failing outage]
  rfl

/-- A command that is performed well answers what performing it answers. -/
theorem hold_put_of_ok {shelf left : Punctual} {command : Command} {answer : command.Answer}
    (unfailing : command.kind ∉ shelf.failing) (done : shelf.perform command = (.ok answer, left))
    (stage : Stage) : (Dialogue.put command stage).hold shelf = (.ok answer, left) := by
  have answered : Cache.answer command shelf = (.ok answer, left) := (if_neg unfailing).trans done
  rw [Dialogue.hold_put, answered]
  rfl

/-- A command that cannot be performed fails with the fault of performing it. -/
theorem hold_put_of_error {shelf left : Punctual} {command : Command} {fault : Fault}
    (unfailing : command.kind ∉ shelf.failing) (done : shelf.perform command = (.error fault, left))
    (stage : Stage) :
    (Dialogue.put command stage).hold shelf = (.error (.cache stage fault), left) := by
  have answered : Cache.answer command shelf = (.error fault, left) :=
    (if_neg unfailing).trans done
  rw [Dialogue.hold_put, answered]
  rfl

/-- Lets time pass, unless the clock cannot name the instant at which it would have passed. -/
def advance? (shelf : Punctual) (span : Lifetime) : Option Punctual :=
  let later := shelf.now + span.nanos
  if later ≤ Instant.horizon then some (shelf.reach later) else none

@[simp] theorem write_failing (shelf : Punctual) (key : String) (pairs : List (String × String)) :
    (shelf.write key pairs).failing = shelf.failing := rfl

@[simp] theorem write_now (shelf : Punctual) (key : String) (pairs : List (String × String)) :
    (shelf.write key pairs).now = shelf.now := rfl

@[simp] theorem setDeadline_failing (shelf : Punctual) (key : String) (deadline : Instant) :
    (shelf.setDeadline key deadline).failing = shelf.failing := by
  -- Whatever becomes of the key, nothing else is touched.
  unfold setDeadline
  split
  · rfl
  · split <;> rfl

@[simp] theorem setDeadline_now (shelf : Punctual) (key : String) (deadline : Instant) :
    (shelf.setDeadline key deadline).now = shelf.now := by
  unfold setDeadline
  split
  · rfl
  · split <;> rfl

/-- Writing a key leaves every other key as it is. -/
theorem getElem?_write (shelf : Punctual) (key other : String) (pairs : List (String × String)) :
    (shelf.write key pairs).entries[other]? =
      if key = other then
        some { shelf.entries[key]?.getD .blank with
          fields := (shelf.entries[key]?.getD .blank).fields.write pairs }
      else shelf.entries[other]? := by
  simp [write, Std.ExtTreeMap.getElem?_insert]

/-- Setting the deadline of a key leaves every other key as it is. -/
theorem getElem?_setDeadline (shelf : Punctual) (key other : String) (deadline : Instant) :
    (shelf.setDeadline key deadline).entries[other]? =
      if key = other then
        if deadline ≤ shelf.now then none
        else shelf.entries[key]?.map fun entry => { entry with deadline := some deadline }
      else shelf.entries[other]? := by
  -- Either there is no such key, or its deadline has come already, or it gets the deadline.
  cases found : shelf.entries[key]? with
  | none =>
    by_cases same : key = other
    · subst same
      simp [setDeadline, found]
    · simp [setDeadline, found, same]
  | some entry =>
    by_cases come : deadline ≤ shelf.now
    · simp [setDeadline, found, come, Std.ExtTreeMap.getElem?_erase]
    · simp [setDeadline, found, come, Std.ExtTreeMap.getElem?_insert]

/-- Limiting a key sets its deadline, or leaves everything as it is. -/
theorem expire_left (shelf : Punctual) (key : String) (life : Lifetime) :
    (shelf.expire key life).2 = shelf ∨
      (shelf.expire key life).2 = shelf.setDeadline key (life.overAt shelf.now) := by
  unfold expire
  split
  · exact .inl rfl
  · split
    · exact .inl rfl
    · exact .inr rfl

/-- Only the keys that are named are deleted. -/
theorem getElem?_delete (shelf : Punctual) (keys : List String) (key : String) :
    (shelf.delete keys).entries[key]? = if key ∈ keys then none else shelf.entries[key]? := by
  rw [delete, Std.ExtTreeMap.getElem?_filter']
  -- A key that is not there can only stay away.
  cases shelf.entries[key]? with
  | none => simp
  | some entry => by_cases named : key ∈ keys <;> simp [named]

/-- At a later instant a key is there until its deadline. -/
theorem getElem?_reach (shelf : Punctual) (later : Instant) (key : String) :
    (shelf.reach later).entries[key]? =
      shelf.entries[key]?.filter fun entry => !entry.hasLapsed later := by
  rw [Punctual.reach, Std.ExtTreeMap.getElem?_filter']

/-- Deleting a key and then others deletes all of them. -/
theorem delete_cons (shelf : Punctual) (key : String) (keys : List String) :
    delete { shelf with entries := shelf.entries.erase key } keys = shelf.delete (key :: keys) := by
  -- Both leave just the keys that are neither the first nor among the others.
  have same : (shelf.entries.erase key).filter (fun other _ => decide (other ∉ keys)) =
      shelf.entries.filter (fun other _ => decide (other ∉ key :: keys)) := by
    apply Std.ExtTreeMap.ext_getElem?
    intro other
    rw [Std.ExtTreeMap.getElem?_filter', Std.ExtTreeMap.getElem?_filter',
      Std.ExtTreeMap.getElem?_erase]
    by_cases same : key = other
    · subst same
      simp
    · simp [same, Ne.symm same]
  rw [delete, delete, same]

/-- Deleting no key changes nothing. -/
theorem delete_nil (shelf : Punctual) : shelf.delete [] = shelf := by
  have same : shelf.entries.filter (fun key _ => decide (key ∉ ([] : List String))) =
      shelf.entries := Std.ExtTreeMap.filter_eq_self_iff.mpr (by simp)
  rw [delete, same]

/-- Deleting depends on which keys are named, and not on their order or how often they are. -/
theorem delete_congr {first second : List String} (same : ∀ key, key ∈ first ↔ key ∈ second)
    (shelf : Punctual) : shelf.delete first = shelf.delete second := by
  have kept : (fun (key : String) (_ : Entry) => decide (key ∉ first)) =
      fun key _ => decide (key ∉ second) := by
    funext key entry
    exact decide_eq_decide.mpr (not_congr (same key))
  rw [delete, delete, kept]

/-- Deleting some keys and then others deletes all of them. -/
theorem delete_delete (shelf : Punctual) (first second : List String) :
    (shelf.delete first).delete second = shelf.delete (first ++ second) := by
  have same : ((shelf.delete first).delete second).entries =
      (shelf.delete (first ++ second)).entries := by
    apply Std.ExtTreeMap.ext_getElem?
    intro key
    rw [getElem?_delete, getElem?_delete, getElem?_delete]
    -- A key that is named by either list is gone, and any other is as it was.
    by_cases earlier : key ∈ first
    · simp [earlier]
    · simp [earlier]
  exact congrArg (fun entries => { shelf with entries := entries }) same

end Punctual

namespace Memory

@[simp] theorem touch_failing (memory : Memory) (key : String) :
    (memory.touch key).failing = memory.failing := by
  -- Only entries are dropped.
  unfold touch
  split
  · split <;> rfl
  · rfl

@[simp] theorem touch_now (memory : Memory) (key : String) :
    (memory.touch key).now = memory.now := by
  unfold touch
  split
  · split <;> rfl
  · rfl

/-- A live entry has not lapsed. -/
theorem hasLapsed_of_live {memory : Memory} {key : String} {entry : Entry}
    (found : memory.live[key]? = some entry) : entry.hasLapsed memory.now = false := by
  rw [getElem?_live, Option.filter_eq_some_iff] at found
  simpa using found.2

/-- The punctual cache that keeps just the live entries of a cache in memory. -/
def punctual (memory : Memory) : Punctual where
  entries := memory.live
  failing := memory.failing
  now := memory.now

/-- Touching a key changes nothing that a punctual cache would show. -/
@[simp] theorem punctual_touch (memory : Memory) (key : String) :
    (memory.touch key).punctual = memory.punctual := by
  simp [punctual, live_touch]

/-- Sweeping changes nothing that a punctual cache would show. -/
@[simp] theorem punctual_sweep (memory : Memory) : memory.sweep.punctual = memory.punctual := by
  -- What is swept away was not live, and what is left has not lapsed.
  have same : memory.sweep.live = memory.live := by
    apply Std.ExtTreeMap.ext_getElem?
    intro key
    rw [getElem?_live, getElem?_live]
    simp [sweep]
  rw [punctual, same]
  rfl

/-- An entry that has not lapsed is live under the key where it is put. -/
theorem live_insert (memory : Memory) (key : String) (entry : Entry)
    (alive : entry.hasLapsed memory.now = false) :
    live { memory with entries := memory.entries.insert key entry } =
      memory.live.insert key entry := by
  apply Std.ExtTreeMap.ext_getElem?
  intro other
  rw [getElem?_live, Std.ExtTreeMap.getElem?_insert, Std.ExtTreeMap.getElem?_insert,
    getElem?_live]
  -- Under the key stands the new entry, and everything else is as before.
  split
  · simp [alive]
  · rfl

/-- An entry that has lapsed is not live under the key where it is put. -/
theorem live_insert_lapsed (memory : Memory) (key : String) (entry : Entry)
    (lapsed : entry.hasLapsed memory.now = true) :
    live { memory with entries := memory.entries.insert key entry } = memory.live.erase key := by
  apply Std.ExtTreeMap.ext_getElem?
  intro other
  rw [getElem?_live, Std.ExtTreeMap.getElem?_insert, Std.ExtTreeMap.getElem?_erase,
    getElem?_live]
  -- Under the key stands an entry that nobody sees, which is as good as none.
  split
  · simp [lapsed]
  · rfl

/-- A key that is erased is not live, and every other key is as before. -/
theorem live_erase (memory : Memory) (key : String) :
    live { memory with entries := memory.entries.erase key } = memory.live.erase key := by
  apply Std.ExtTreeMap.ext_getElem?
  intro other
  rw [getElem?_live, Std.ExtTreeMap.getElem?_erase, Std.ExtTreeMap.getElem?_erase,
    getElem?_live]
  split <;> rfl

/-- Writing shows what a punctual cache shows that is written to. -/
theorem punctual_write (memory : Memory) (key : String) (pairs : List (String × String)) :
    (memory.write key pairs).punctual = memory.punctual.write key pairs := by
  -- Writing keeps the deadline that the live entry has, so the entry stays live.
  have alive : (memory.live[key]?.getD .blank).hasLapsed memory.now = false := by
    cases found : memory.live[key]? with
    | none => rfl
    | some entry => exact hasLapsed_of_live found
  have shown : memory.punctual.entries[key]? = memory.live[key]? := rfl
  simp only [write, Punctual.write, getElem?_touch, shown]
  -- Either there was an entry or it starts blank; what matters is that it has not lapsed.
  generalize memory.live[key]?.getD .blank = entry at alive
  have written := live_insert (memory.touch key) key ⟨entry.fields.write pairs, entry.deadline⟩
    (by simpa [Entry.hasLapsed] using alive)
  rw [live_touch] at written
  simp only [punctual]
  rw [written, touch_failing, touch_now]

/-- Setting a deadline shows what a punctual cache shows in which it is set. -/
theorem punctual_setDeadline (memory : Memory) (key : String) (deadline : Instant) :
    (memory.setDeadline key deadline).punctual = memory.punctual.setDeadline key deadline := by
  have shown : memory.punctual.entries[key]? = memory.live[key]? := rfl
  -- A deadline that has come already hides the entry in memory, where it is erased at once here.
  simp only [setDeadline, Punctual.setDeadline, getElem?_touch, shown]
  cases memory.live[key]? with
  | none => exact punctual_touch memory key
  | some entry =>
    dsimp only
    by_cases come : deadline ≤ memory.now
    · have set := live_insert_lapsed (memory.touch key) key ⟨entry.fields, some deadline⟩
        (by simpa [Entry.hasLapsed] using come)
      rw [live_touch] at set
      rw [if_pos (show deadline ≤ memory.punctual.now from come)]
      simp only [punctual]
      rw [set, touch_failing, touch_now]
    · have set := live_insert (memory.touch key) key ⟨entry.fields, some deadline⟩
        (by simpa [Entry.hasLapsed] using come)
      rw [live_touch] at set
      rw [if_neg (show ¬ deadline ≤ memory.punctual.now from come)]
      simp only [punctual]
      rw [set, touch_failing, touch_now]

/-- Limiting a key fails where the lifetime is too long or its end too late, and sets the deadline
otherwise. -/
theorem expire_eq (memory : Memory) (key : String) (life : Lifetime) :
    memory.expire key life =
      if Lifetime.maxMillis < life.millis then (.error (.lifetimeTooLong life), memory)
      else if Instant.horizon < life.overAt memory.now then
        (.error (.deadlineTooLate life), memory)
      else (.ok (), memory.setDeadline key (life.overAt memory.now)) := by
  -- The expiry refuses what is too long, and the clock what ends too late.
  by_cases long : Lifetime.maxMillis < life.millis
  · rw [expire, life.expiry_of_long long, if_pos long]
  · rw [expire, life.expiry_of_short (Nat.not_lt.mp long), if_neg long, Lifetime.overAt,
      Nat.mul_comm nanosPerMilli]
    by_cases late : Instant.horizon < memory.now + life.millis * nanosPerMilli
    · rw [if_pos late]
      exact if_neg (Nat.not_le.mpr late)
    · rw [if_neg late]
      exact if_pos (Nat.not_lt.mp late)

/-- Limiting a key answers and leaves what a punctual cache answers and shows. -/
theorem punctual_expire (memory : Memory) (key : String) (life : Lifetime) :
    memory.punctual.expire key life =
      ((memory.expire key life).1, (memory.expire key life).2.punctual) := by
  have shown : memory.punctual.now = memory.now := rfl
  -- Both look for the same two faults, and at one instant.
  rw [expire_eq, Punctual.expire, shown]
  by_cases long : Lifetime.maxMillis < life.millis
  · simp only [if_pos long]
  · by_cases late : Instant.horizon < life.overAt memory.now
    · simp only [if_neg long, if_pos late]
    · simp only [if_neg long, if_neg late, punctual_setDeadline]

/-- Erasing a key that is not there changes nothing. -/
theorem erase_eq_self {entries : Std.ExtTreeMap String Entry} {key : String}
    (missing : entries[key]? = none) : entries.erase key = entries := by
  apply Std.ExtTreeMap.ext_getElem?
  intro other
  rw [Std.ExtTreeMap.getElem?_erase]
  by_cases same : key = other
  · subst same
    simp [missing]
  · simp [same]

/-- Among the keys that are named, the first counts if it is there, and the others count without it.
-/
theorem size_filter_mem_cons (entries : Std.ExtTreeMap String Entry) (key : String)
    (keys : List String) :
    (entries.filter fun other _ => other ∈ key :: keys).size =
      ((entries.erase key).filter fun other _ => other ∈ keys).size +
        if entries[key]?.isSome then 1 else 0 := by
  -- The first key is put apart from the others, so that it counts once, however often it is named.
  cases found : entries[key]? with
  | none =>
    have same : (entries.filter fun other _ => other ∈ key :: keys) =
        entries.filter fun other _ => other ∈ keys := by
      apply Std.ExtTreeMap.ext_getElem?
      intro other
      rw [Std.ExtTreeMap.getElem?_filter', Std.ExtTreeMap.getElem?_filter']
      by_cases same : other = key
      · subst same
        simp [found]
      · simp [same]
    simp only [same, erase_eq_self found, Option.isSome_none, Bool.false_eq_true, if_false,
      Nat.add_zero]
  | some entry =>
    have split : (entries.filter fun other _ => other ∈ key :: keys) =
        ((entries.erase key).filter fun other _ => other ∈ keys).insert key entry := by
      apply Std.ExtTreeMap.ext_getElem?
      intro other
      rw [Std.ExtTreeMap.getElem?_insert, Std.ExtTreeMap.getElem?_filter',
        Std.ExtTreeMap.getElem?_filter', Std.ExtTreeMap.getElem?_erase]
      by_cases same : key = other
      · subst same
        simp [found]
      · simp [same, Ne.symm same]
    -- The key is not among those that are counted without it.
    have absent :
        ((entries.erase key).filter fun other _ => other ∈ keys).contains key = false := by
      rw [Std.ExtTreeMap.contains_eq_isSome_getElem?, Std.ExtTreeMap.getElem?_filter']
      simp
    rw [split, Std.ExtTreeMap.size_insert]
    simp [absent]

/-- Deleting keys counts the live keys that are named and shows what a punctual cache shows without
them. -/
theorem delete_punctual (keys : List String) (memory : Memory) :
    (memory.delete keys).1 = (memory.live.filter fun key _ => key ∈ keys).size ∧
      (memory.delete keys).2.punctual = memory.punctual.delete keys := by
  -- The keys are deleted one by one, so a key that is named twice is counted only once.
  induction keys generalizing memory with
  | nil =>
    constructor
    · rw [delete, Std.ExtTreeMap.filter_eq_empty_iff.mpr (by simp)]
      rfl
    · rw [delete, Punctual.delete, Std.ExtTreeMap.filter_eq_self_iff.mpr (by simp)]
  | cons key keys ih =>
    rw [delete, Std.ExtTreeMap.contains_eq_isSome_getElem?, getElem?_touch, size_filter_mem_cons,
      ← Punctual.delete_cons]
    have shown : memory.punctual.entries = memory.live := rfl
    cases found : memory.live[key]? with
    | none =>
      -- Nothing is deleted under this key, and the others are deleted as if it had not been named.
      obtain ⟨counted, left⟩ := ih (memory.touch key)
      rw [live_touch] at counted
      rw [punctual_touch] at left
      rw [shown, erase_eq_self found]
      exact ⟨counted, left⟩
    | some entry =>
      have erased := live_erase (memory.touch key) key
      rw [live_touch] at erased
      obtain ⟨counted, left⟩ :=
        ih { memory.touch key with entries := (memory.touch key).entries.erase key }
      -- Without the key, the punctual cache shows what it showed but for this one entry.
      have shrunk : punctual
          { memory.touch key with entries := (memory.touch key).entries.erase key } =
            { memory.punctual with entries := memory.live.erase key } := by
        simp only [punctual]
        rw [erased, touch_failing, touch_now]
      rw [erased] at counted
      rw [shrunk] at left
      exact ⟨congrArg (· + 1) counted, left⟩

/-- Performing a command answers and leaves what a punctual cache answers and shows. -/
theorem perform_punctual (command : Command) (memory : Memory) :
    memory.punctual.perform command =
      ((memory.perform command).1, (memory.perform command).2.punctual) := by
  have shown : memory.punctual.entries = memory.live := rfl
  -- Commands that read touch a key first, and then see under it what is live.
  cases command with
  | write key pairs => simp [perform, Punctual.perform, punctual_write]
  | expire key life => exact punctual_expire memory key life
  | present key =>
    simp only [perform, Punctual.perform, Std.ExtTreeMap.contains_eq_isSome_getElem?,
      getElem?_touch, shown, punctual_touch]
  | read key field => simp [perform, Punctual.perform, getElem?_touch, shown]
  | readAll key => simp [perform, Punctual.perform, getElem?_touch, shown]
  | list pattern =>
    simp only [perform, Punctual.perform, punctual_sweep]
    rfl
  | delete keys =>
    obtain ⟨counted, left⟩ := delete_punctual keys memory
    simp only [perform, Punctual.perform, counted, left, shown]

/-- A cache in memory answers every command as its punctual cache does, and shows afterwards what
that cache is left with. -/
theorem answer_punctual (command : Command) (memory : Memory) :
    Cache.answer command memory.punctual =
      ((Cache.answer command memory).1, (Cache.answer command memory).2.punctual) := by
  -- Both have the same kinds of commands fail, so they differ at most in what they perform.
  by_cases outage : command.kind ∈ memory.failing
  · have shown : command.kind ∈ memory.punctual.failing := outage
    simp [Cache.answer, outage, shown]
  · have shown : command.kind ∉ memory.punctual.failing := outage
    simp only [Cache.answer, outage, shown, if_false]
    exact perform_punctual command memory

/-- A key is live at a later instant if it is live now and its deadline does not come until then. -/
theorem live_later (memory : Memory) (later : Instant) (forward : memory.now ≤ later) :
    live { memory with now := later } =
      memory.live.filter fun _ entry => !entry.hasLapsed later := by
  apply Std.ExtTreeMap.ext_getElem?
  intro key
  rw [getElem?_live, Std.ExtTreeMap.getElem?_filter', getElem?_live]
  cases memory.entries[key]? with
  | none => rfl
  | some entry =>
    -- A deadline that has come by now has also come later.
    have lasting : entry.hasLapsed memory.now = true → entry.hasLapsed later = true := by
      cases deadline : entry.deadline with
      | none => simp [Entry.hasLapsed, deadline]
      | some limit =>
        simp only [Entry.hasLapsed, deadline, Option.any_some, decide_eq_true_eq]
        intro come
        exact Nat.le_trans come forward
    cases now : entry.hasLapsed memory.now with
    | true => simp [now, lasting now, Option.filter]
    | false => simp [now, Option.filter]

/-- Time passes for a cache in memory as it does for its punctual cache. -/
theorem advance?_punctual (memory : Memory) (span : Lifetime) :
    memory.punctual.advance? span = (memory.advance? span).map punctual := by
  have shown : memory.punctual.now = memory.now := rfl
  rw [advance?, Punctual.advance?, shown]
  -- Both clocks stand at one instant, so they reach the later one together or not at all.
  by_cases named : memory.now + span.nanos ≤ Instant.horizon
  · simp only [if_pos named, Option.map_some, Punctual.reach, punctual]
    rw [live_later memory _ (Nat.le_add_right _ _)]
  · simp only [if_neg named, Option.map_none]

end Memory

/-- A view of a cache that keeps every answer keeps the course of every dialogue. -/
theorem Dialogue.hold_view {σ τ α : Type} [Cache σ] [Cache τ] {view : σ → τ}
    (square : ∀ command state, Cache.answer command (view state) =
      ((Cache.answer command state).1, view (Cache.answer command state).2))
    (dialogue : Dialogue α) (state : σ) :
    dialogue.hold (view state) = ((dialogue.hold state).1, view (dialogue.hold state).2) := by
  -- A dialogue goes on by what it is answered, so equal answers keep both in step.
  induction dialogue generalizing state with
  | done => rfl
  | fail => rfl
  | ask command stage next ih =>
    simp only [hold, square]
    cases Cache.answer command state with
    | mk answer state =>
      cases answer with
      | ok answer => exact ih answer state
      | error fault => rfl

/-- Holding a dialogue with a cache in memory shows what holding it with its punctual cache does. -/
theorem Memory.hold_punctual {α : Type} (dialogue : Dialogue α) (memory : Memory) :
    dialogue.hold memory.punctual =
      ((dialogue.hold memory).1, (dialogue.hold memory).2.punctual) :=
  Dialogue.hold_view answer_punctual dialogue memory

end TenantSessions
