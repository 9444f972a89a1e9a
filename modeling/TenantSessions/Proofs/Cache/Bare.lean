import TenantSessions.Proofs.Record
import TenantSessions.Proofs.Cache.Calls

/-!
A key is there as soon as it has been written, and a write may bring no fields. Such a key is bare:
it is there and it is counted, but there is nothing to be read under it. A server keeps no bare
keys, for it takes no write without fields. In memory they come about in this one way, and last
until a field is written.
-/

namespace TenantSessions

/-- A call, and the cache that was called. -/
structure Turn where
  before : Memory
  call : Call

namespace Turn

/-- Whether pairs are written under a key, which they are not while writing is made to fail. -/
def Writes (turn : Turn) (key : String) (pairs : List (String × String)) : Prop :=
  turn.call = .put (.write key pairs) ∧ .write ∉ turn.before.failing

/-- Whether a key that was not there is written without fields. -/
def OpensBare (turn : Turn) (key : String) : Prop :=
  turn.Writes key [] ∧ turn.before.live[key]? = none

/-- A turn writes one list of pairs at most. -/
theorem Writes.unique {turn : Turn} {key : String} {pairs others : List (String × String)}
    (writes : turn.Writes key pairs) (also : turn.Writes key others) : others = pairs := by
  cases writes.1.symm.trans also.1
  rfl

end Turn

/-- The turns that have led from a new cache in memory to what it is now, the last one first. -/
inductive History : List Turn → Memory → Prop where
  | start : History [] .empty
  | step {past : List Turn} {before after : Memory} {call : Call} {answer : call.Answer}
      (sofar : History past before) (called : Called.call? call before = some (answer, after)) :
      History (⟨before, call⟩ :: past) after

/-- Whether a key has been opened by a write without fields, and no field of it has been written
since then. -/
def LeftBare (key : String) : List Turn → Prop
  | [] => False
  | turn :: past =>
    turn.OpensBare key ∨ (LeftBare key past ∧ ∀ pairs, turn.Writes key pairs → pairs = [])

/-- How a key that is there after a turn has come by its fields. -/
inductive Turn.Fills (turn : Turn) (key : String) (fields : Fields) : Prop where
  | written (pairs : List (String × String)) (writes : turn.Writes key pairs)
      (filled : fields = (turn.before.live[key]?.elim ∅ Entry.fields).write pairs)
  | kept (unwritten : ∀ pairs, ¬ turn.Writes key pairs) (entry : Entry)
      (found : turn.before.live[key]? = some entry) (same : entry.fields = fields)

namespace Punctual

variable {shelf : Punctual} {key : String} {entry : Entry}

/-- Where a command does not write, a key is there afterwards only with the fields that it had. -/
theorem fields_of_perform {command : Command} (unwritten : ∀ pairs, command ≠ .write key pairs)
    (found : (shelf.perform command).2.entries[key]? = some entry) :
    ∃ old, shelf.entries[key]? = some old ∧ old.fields = entry.fields := by
  -- A limit sets deadlines and a deletion takes keys away; neither gives a key any fields.
  cases command with
  | write name pairs =>
    have other : name ≠ key := fun same => unwritten pairs (same ▸ rfl)
    rw [perform, getElem?_write, if_neg other] at found
    exact ⟨entry, found, rfl⟩
  | expire name life =>
    rw [perform] at found
    rcases shelf.expire_left name life with same | limited
    · rw [same] at found
      exact ⟨entry, found, rfl⟩
    · rw [limited, getElem?_setDeadline] at found
      split at found
      · rename_i same
        subst same
        -- The key is still there, so its deadline has not come, and only the deadline is new.
        rw [Option.ite_none_left_eq_some] at found
        obtain ⟨old, there, rfl⟩ := Option.map_eq_some_iff.mp found.2
        exact ⟨old, there, rfl⟩
      · exact ⟨entry, found, rfl⟩
  | delete names =>
    rw [perform, getElem?_delete] at found
    split at found
    · cases found
    · exact ⟨entry, found, rfl⟩
  | present => exact ⟨entry, found, rfl⟩
  | read => exact ⟨entry, found, rfl⟩
  | readAll => exact ⟨entry, found, rfl⟩
  | list => exact ⟨entry, found, rfl⟩

/-- Where a call does not write, a key is there afterwards only with the fields that it had. -/
theorem fields_of_call? {call : Call} {left : call.Answer × Punctual}
    (unwritten : ∀ pairs, call = .put (.write key pairs) → .write ∈ shelf.failing)
    (called : Called.call? call shelf = some left) (found : left.2.entries[key]? = some entry) :
    ∃ old, shelf.entries[key]? = some old ∧ old.fields = entry.fields := by
  -- Of the calls that are no commands only time that passes takes anything away.
  cases call with
  | put command =>
    cases called
    by_cases outage : command.kind ∈ shelf.failing
    · rw [answer_of_failing outage] at found
      exact ⟨entry, found, rfl⟩
    · rw [answer_eq outage] at found
      refine fields_of_perform (fun pairs same => ?_) found
      subst same
      exact outage (unwritten pairs rfl)
  | pass span =>
    -- What has not lapsed is as it was.
    obtain ⟨later, advanced, rfl⟩ := Option.map_eq_some_iff.mp called
    rw [advance?, Option.ite_none_right_eq_some] at advanced
    obtain ⟨-, reached⟩ := advanced
    cases reached
    rw [getElem?_reach, Option.filter_eq_some_iff] at found
    exact ⟨entry, found.1, rfl⟩
  | remaining => cases called; exact ⟨entry, found, rfl⟩
  | holds => cases called; exact ⟨entry, found, rfl⟩
  | field => cases called; exact ⟨entry, found, rfl⟩
  | size => cases called; exact ⟨entry, found, rfl⟩
  | fail => cases called; exact ⟨entry, found, rfl⟩
  | heal => cases called; exact ⟨entry, found, rfl⟩

end Punctual

/-- A key that is there after a turn has its fields from what was written, over those it had, or
else still has those it had. -/
theorem Turn.fills (turn : Turn) {answer : turn.call.Answer} {after : Memory} {key : String}
    {entry : Entry} (called : Called.call? turn.call turn.before = some (answer, after))
    (found : after.live[key]? = some entry) : turn.Fills key entry.fields := by
  obtain ⟨before, call⟩ := turn
  -- What is live in memory is what the punctual cache shows, which takes the same calls.
  have shown : Called.call? call before.punctual = some (answer, after.punctual) := by
    rw [Memory.call?_punctual, called]
    rfl
  by_cases writes : ∃ pairs, Turn.Writes ⟨before, call⟩ key pairs
  · obtain ⟨pairs, rfl, unfailing⟩ := writes
    refine .written pairs ⟨rfl, unfailing⟩ ?_
    have answered : Cache.answer (.write key pairs) before.punctual =
        (.ok (), before.punctual.write key pairs) := Punctual.answer_eq unfailing
    have left := (Prod.mk.inj (answered.symm.trans (Option.some.inj shown))).2
    have written : (before.punctual.write key pairs).entries[key]? = some entry := left ▸ found
    rw [Punctual.getElem?_write, if_pos rfl] at written
    cases written
    -- A key that was not there is written as if it had been there without fields.
    show _ = (before.punctual.entries[key]?.elim ∅ Entry.fields).write pairs
    cases before.punctual.entries[key]? with
    | none => rfl
    | some old => rfl
  · have unwritten : ∀ pairs, ¬ Turn.Writes ⟨before, call⟩ key pairs :=
      fun pairs written => writes ⟨pairs, written⟩
    have failing : ∀ pairs, call = .put (.write key pairs) → .write ∈ before.failing :=
      fun pairs same => Decidable.of_not_not fun unfailing => unwritten pairs ⟨same, unfailing⟩
    obtain ⟨old, there, same⟩ := Punctual.fields_of_call? failing shown found
    exact .kept unwritten old there same

/-- The fields of a key that is there are none exactly if it has been left bare. -/
theorem History.fields_eq_empty_iff {past : List Turn} {memory : Memory}
    (history : History past memory) {key : String} {entry : Entry}
    (found : memory.live[key]? = some entry) : entry.fields = ∅ ↔ LeftBare key past := by
  -- The induction is on the history, each of whose turns fills the key in one of two ways.
  induction history generalizing entry with
  | start => simp [Memory.getElem?_live, Memory.empty] at found
  | @step past before after call answer _ called ih =>
    have opened : LeftBare key (⟨before, call⟩ :: past) ↔
        Turn.OpensBare ⟨before, call⟩ key ∨ (LeftBare key past ∧
          ∀ pairs, Turn.Writes ⟨before, call⟩ key pairs → pairs = []) := Iff.rfl
    cases Turn.fills ⟨before, call⟩ called found with
    | written pairs writes filled =>
      -- Nothing else is written by the turn, so it writes no field exactly if the pairs are none.
      have fieldless : (∀ others, Turn.Writes ⟨before, call⟩ key others → others = []) ↔
          pairs = [] :=
        ⟨fun all => all pairs writes, fun none others also => (writes.unique also).trans none⟩
      rw [filled, Fields.write_eq_empty_iff, opened, fieldless]
      cases there : before.live[key]? with
      | none =>
        have opens : Turn.OpensBare ⟨before, call⟩ key ↔ pairs = [] :=
          ⟨fun opens => (writes.unique opens.1).symm, fun none => ⟨none ▸ writes, there⟩⟩
        rw [Option.elim_none, opens, or_iff_left_of_imp And.right, and_iff_right rfl]
      | some old =>
        have unopened : ¬ Turn.OpensBare ⟨before, call⟩ key :=
          fun opens => by cases there.symm.trans opens.2
        rw [Option.elim_some, ih there, or_iff_right unopened]
    | kept unwritten old there same =>
      have unopened : ¬ Turn.OpensBare ⟨before, call⟩ key := fun opens => unwritten [] opens.1
      rw [← same, ih there, opened, or_iff_right unopened, and_iff_left]
      exact fun pairs writes => absurd writes (unwritten pairs)

/-- A key is not left bare if no write to it has been without fields. -/
theorem not_leftBare {key : String} {past : List Turn}
    (filling : ∀ turn ∈ past, ¬ turn.Writes key []) : ¬ LeftBare key past := by
  induction past with
  | nil => exact not_false
  | cons turn past ih =>
    obtain ⟨last, before⟩ := List.forall_mem_cons.mp filling
    rintro (opens | ⟨left, -⟩)
    · exact last opens.1
    · exact ih before left

namespace Memory

/-- The keys that a cache in memory counts and says to be there, when no command fails. -/
structure Shows (memory : Memory) (keys : List String) : Prop where
  distinct : keys.Nodup
  counted : memory.heal.size.1 = keys.length
  present : ∀ key, (Cache.answer (.present key) memory.heal).1 = .ok (decide (key ∈ keys))

/-- When no command fails, a key is said to be there exactly if it is live. -/
theorem answer_present_heal (memory : Memory) (key : String) :
    (Cache.answer (.present key) memory.heal).1 = .ok (memory.live.contains key) := by
  -- The key is touched first, and only what is live is left of it.
  show Except.ok ((memory.heal.touch key).entries.contains key) = _
  rw [Std.ExtTreeMap.contains_eq_isSome_getElem?, getElem?_touch,
    Std.ExtTreeMap.contains_eq_isSome_getElem?]
  rfl

/-- When no command fails, the fields that are read under a key are those that are live, or none. -/
theorem answer_readAll_heal (memory : Memory) (key : String) :
    (Cache.answer (.readAll key) memory.heal).1 =
      .ok (memory.live[key]?.elim ∅ Entry.fields) := by
  show Except.ok ((memory.heal.touch key).entries[key]?.elim ∅ Entry.fields) = _
  rw [getElem?_touch]
  rfl

/-- What is live is shown. -/
theorem shows_live (memory : Memory) : memory.Shows memory.live.keys where
  distinct := Std.ExtTreeMap.nodup_keys
  counted := Std.ExtTreeMap.length_keys.symm
  present key := by
    have there : memory.live.contains key = decide (key ∈ memory.live.keys) := by
      rw [Bool.eq_iff_iff, decide_eq_true_iff, Std.ExtTreeMap.contains_iff_mem,
        Std.ExtTreeMap.mem_keys]
    rw [answer_present_heal, there]

/-- After any history of calls, a key has fields to be read exactly if it is there and has not been
left bare by a write without fields; so if no write to it has been without fields, it has fields
exactly if it is there, and exactly if it is counted. -/
theorem filled_iff_shown {past : List Turn} {memory : Memory} (history : History past memory) :
    ∃ keys, memory.Shows keys ∧
      ∀ key, ∃ fields, (Cache.answer (.readAll key) memory.heal).1 = .ok fields ∧
        (fields ≠ ∅ ↔ key ∈ keys ∧ ¬ LeftBare key past) ∧
        ((∀ turn ∈ past, ¬ turn.Writes key []) → (fields ≠ ∅ ↔ key ∈ keys)) := by
  refine ⟨memory.live.keys, memory.shows_live, fun key => ⟨_, answer_readAll_heal .., ?_⟩⟩
  -- Where there is no such key there are no fields, and of one that is there the history tells.
  have filled : memory.live[key]?.elim ∅ Entry.fields ≠ ∅ ↔
      key ∈ memory.live.keys ∧ ¬ LeftBare key past := by
    rw [Std.ExtTreeMap.mem_keys, Std.ExtTreeMap.mem_iff_isSome_getElem?]
    cases found : memory.live[key]? with
    | none => simp
    | some entry => simp [← history.fields_eq_empty_iff found]
  exact ⟨filled, fun filling => filled.trans (and_iff_left (not_leftBare filling))⟩

/-- Of two keys one is written with a field and the other without any, before reading is made to
fail: both are there, and just the one that has not been left bare has fields. -/
theorem filled_iff_shown_hollow :
    ∃ past memory keys, History past memory ∧ past.length = 3 ∧ memory.failing = [.readAll] ∧
      memory.Shows keys ∧
      ("h" ∈ keys ∧ LeftBare "h" past ∧ (Cache.answer (.readAll "h") memory.heal).1 = .ok ∅) ∧
      "g" ∈ keys ∧ ¬ LeftBare "g" past := by
  have history := History.step (.step (.step .start
    (rfl : Called.call? (.put (.write "h" [])) _ = some _))
    (rfl : Called.call? (.put (.write "g" [("a", "1")])) _ = some _))
    (rfl : Called.call? (.fail .readAll) _ = some _)
  obtain ⟨keys, shows, reads⟩ := filled_iff_shown history
  obtain ⟨none, readNone, hollow, -⟩ := reads "h"
  obtain ⟨some, readSome, filled, -⟩ := reads "g"
  -- What is read under each key is known, and so is whether the key was left bare.
  cases readNone
  cases readSome
  have bare : "h" ∈ keys := by
    have present : Except.ok true = Except.ok (decide ("h" ∈ keys)) := shows.present "h"
    exact of_decide_eq_true (Except.ok.inj present).symm
  refine ⟨_, _, keys, history, rfl, rfl, shows, ⟨bare, ?_, rfl⟩, filled.mp ?_⟩
  · exact Classical.byContradiction fun left => hollow.mpr ⟨bare, left⟩ rfl
  · decide

/-- A key that has been written without fields is there and is counted, and has no fields. -/
theorem exists_bare :
    ∃ past memory, History past memory ∧
      (Cache.answer (.present "h") memory.heal).1 = .ok true ∧
      (Cache.answer (.readAll "h") memory.heal).1 = .ok ∅ ∧
      memory.heal.size.1 = 1 :=
  ⟨_, _, .step .start (rfl : Called.call? (.put (.write "h" [])) _ = some _), rfl, rfl,
    by decide +kernel⟩

end Memory

end TenantSessions
