import TenantSessions.Proofs.Cache.Calls

/-!
The ground of a dialogue is the keys that it sees. A dialogue leaves every other key as it is, and
what it answers and leaves on its ground depends on that ground alone; so two dialogues whose
grounds have no key in common may be held in either order.
-/

namespace TenantSessions

namespace Command

/-- Whether a command looks at a key or changes it. -/
def Sees : Command → String → Prop
  | .write name _, key => key = name
  | .expire name _, key => key = name
  | .present name, key => key = name
  | .read name _, key => key = name
  | .readAll name, key => key = name
  | .list pattern, key => Glob.accepts pattern key = true
  | .delete names, key => key ∈ names

/-- Whether a cache can give an answer to a command: a listing holds only what its pattern accepts.
-/
def MayAnswer : (command : Command) → command.Answer → Prop
  | .list pattern, keys => ∀ key ∈ keys, Glob.accepts pattern key = true
  | _, _ => True

end Command

/-- A dialogue that sees no key but those of a ground, whatever it may be answered. -/
inductive Dialogue.KeepsTo {α : Type} (ground : String → Prop) : Dialogue α → Prop where
  | done (value : α) : KeepsTo ground (.done value)
  | fail (failure : Failure) : KeepsTo ground (.fail failure)
  | ask {command : Command} {stage : Stage} {next : command.Answer → Dialogue α}
      (inside : ∀ key, command.Sees key → ground key)
      (follow : ∀ answer, command.MayAnswer answer → KeepsTo ground (next answer)) :
      KeepsTo ground (.ask command stage next)

/-- Two dialogues in a row keep to a ground to which each of them keeps. -/
theorem Dialogue.KeepsTo.bind {α β : Type} {ground : String → Prop} {dialogue : Dialogue α}
    (keeps : dialogue.KeepsTo ground) {follow : α → Dialogue β}
    (others : ∀ value, (follow value).KeepsTo ground) :
    (dialogue >>= follow).KeepsTo ground := by
  -- The second dialogue takes the place of each end of the first.
  induction keeps with
  | done value => exact others value
  | fail failure => exact .fail failure
  | ask inside _ ih => exact .ask inside ih

/-- A dialogue that keeps to a ground keeps to any wider one. -/
theorem Dialogue.KeepsTo.mono {α : Type} {ground wider : String → Prop} {dialogue : Dialogue α}
    (keeps : dialogue.KeepsTo ground) (wide : ∀ key, ground key → wider key) :
    dialogue.KeepsTo wider := by
  induction keeps with
  | done value => exact .done value
  | fail failure => exact .fail failure
  | ask inside _ ih => exact .ask (fun key sees => wide key (inside key sees)) ih

namespace Punctual

/-- Entries that agree where they are kept by a filter are filtered alike. -/
theorem filter_congr {entries others : Std.ExtTreeMap String Entry} {keep : String → Bool}
    (agree : ∀ key, keep key = true → others[key]? = entries[key]?) :
    others.filter (fun key _ => keep key) = entries.filter (fun key _ => keep key) := by
  apply Std.ExtTreeMap.ext_getElem?
  intro key
  rw [Std.ExtTreeMap.getElem?_filter', Std.ExtTreeMap.getElem?_filter']
  -- A key that is not kept is missing on both sides, whatever is there.
  cases kept : keep key with
  | true => rw [agree key kept]
  | false => simp

variable {shelf other : Punctual} {ground : String → Prop} {key : String}

/-- Two caches that cannot be told apart on a ground. -/
structure Agree (ground : String → Prop) (shelf other : Punctual) : Prop where
  failing : other.failing = shelf.failing
  now : other.now = shelf.now
  entries : ∀ key, ground key → other.entries[key]? = shelf.entries[key]?

/-- No command changes which commands fail. -/
theorem perform_failing (shelf : Punctual) (command : Command) :
    (shelf.perform command).2.failing = shelf.failing := by
  cases command with
  | expire key life =>
    rw [perform]
    rcases shelf.expire_left key life with same | limited
    · rw [same]
    · rw [limited, setDeadline_failing]
  | write => rfl
  | present => rfl
  | read => rfl
  | readAll => rfl
  | list => rfl
  | delete => rfl

/-- A command leaves every key as it is that it does not see. -/
theorem perform_frame {command : Command} (unseen : ¬ command.Sees key) (shelf : Punctual) :
    (shelf.perform command).2.entries[key]? = shelf.entries[key]? := by
  cases command with
  | write name pairs => exact (getElem?_write ..).trans (if_neg (Ne.symm unseen))
  | expire name life =>
    rw [perform]
    rcases shelf.expire_left name life with same | limited
    · rw [same]
    · rw [limited, getElem?_setDeadline, if_neg (Ne.symm unseen)]
  | delete names => exact (getElem?_delete ..).trans (if_neg unseen)
  | present => rfl
  | read => rfl
  | readAll => rfl
  | list => rfl

namespace Agree

variable {name : String}

/-- Caches that agree on a key still do when it is written. -/
theorem write (agree : Agree ground shelf other) (inside : ground name)
    (pairs : List (String × String)) :
    Agree ground (shelf.write name pairs) (other.write name pairs) where
  failing := agree.failing
  now := agree.now
  entries key member := by
    rw [getElem?_write, getElem?_write, agree.entries name inside, agree.entries key member]

/-- Caches that agree on a key limit it alike. -/
theorem expire (agree : Agree ground shelf other) (inside : ground name) (life : Lifetime) :
    (other.expire name life).1 = (shelf.expire name life).1 ∧
      Agree ground (shelf.expire name life).2 (other.expire name life).2 := by
  rw [Punctual.expire, Punctual.expire, agree.now]
  -- The lifetime and the clock decide whether the key is limited, and the clock is the same.
  by_cases long : Lifetime.maxMillis < life.millis
  · rw [if_pos long, if_pos long]
    exact ⟨rfl, agree⟩
  rw [if_neg long, if_neg long]
  by_cases late : Instant.horizon < life.overAt shelf.now
  · rw [if_pos late, if_pos late]
    exact ⟨rfl, agree⟩
  rw [if_neg late, if_neg late]
  refine ⟨rfl, ?_, ?_, fun key member => ?_⟩
  · rw [setDeadline_failing, setDeadline_failing, agree.failing]
  · rw [setDeadline_now, setDeadline_now, agree.now]
  · rw [getElem?_setDeadline, getElem?_setDeadline, agree.now, agree.entries name inside,
      agree.entries key member]

/-- Caches that agree on keys delete and count them alike. -/
theorem delete (agree : Agree ground shelf other) {names : List String}
    (inside : ∀ name ∈ names, ground name) :
    (other.entries.filter fun key _ => key ∈ names).size =
        (shelf.entries.filter fun key _ => key ∈ names).size ∧
      Agree ground (shelf.delete names) (other.delete names) := by
  have named : ∀ key, decide (key ∈ names) = true → other.entries[key]? = shelf.entries[key]? :=
    fun key member => agree.entries key (inside key (of_decide_eq_true member))
  refine ⟨by rw [filter_congr named], agree.failing, agree.now, fun key member => ?_⟩
  rw [getElem?_delete, getElem?_delete, agree.entries key member]

/-- A command is performed alike by caches that agree on what it sees. -/
theorem perform {command : Command} (agree : Agree ground shelf other)
    (inside : ∀ key, command.Sees key → ground key) :
    (other.perform command).1 = (shelf.perform command).1 ∧
      Agree ground (shelf.perform command).2 (other.perform command).2 := by
  cases command with
  | write name pairs => exact ⟨rfl, agree.write (inside name rfl) pairs⟩
  | expire name life => exact agree.expire (inside name rfl) life
  | present name =>
    refine ⟨?_, agree⟩
    simp only [Punctual.perform, Std.ExtTreeMap.contains_eq_isSome_getElem?,
      agree.entries name (inside name rfl)]
  | read name field =>
    refine ⟨?_, agree⟩
    simp only [Punctual.perform, agree.entries name (inside name rfl)]
  | readAll name =>
    refine ⟨?_, agree⟩
    simp only [Punctual.perform, agree.entries name (inside name rfl)]
  | list pattern =>
    -- What a pattern accepts is listed from the entries that it accepts.
    have accepted := filter_congr fun key accepted => agree.entries key (inside key accepted)
    refine ⟨?_, agree⟩
    simp only [Punctual.perform]
    rw [← Std.ExtTreeMap.keys_filter_key, accepted, Std.ExtTreeMap.keys_filter_key]
  | delete names =>
    obtain ⟨counted, left⟩ := agree.delete inside
    exact ⟨congrArg Except.ok counted, left⟩

/-- A command is answered alike by caches that agree on what it sees. -/
theorem answer {command : Command} (agree : Agree ground shelf other)
    (inside : ∀ key, command.Sees key → ground key) :
    (Cache.answer command other).1 = (Cache.answer command shelf).1 ∧
      Agree ground (Cache.answer command shelf).2 (Cache.answer command other).2 := by
  -- The same commands fail in both caches.
  by_cases outage : command.kind ∈ shelf.failing
  · have outageOther : command.kind ∈ other.failing := agree.failing ▸ outage
    rw [answer_of_failing outage, answer_of_failing outageOther]
    exact ⟨rfl, agree⟩
  · have unfailing : command.kind ∉ other.failing := agree.failing ▸ outage
    rw [answer_eq outage, answer_eq unfailing]
    exact agree.perform inside

end Agree

/-- A command leaves every key as it is that it does not see, and neither moves the clock nor
changes which commands fail. -/
theorem answer_frame {command : Command} (unseen : ∀ key, ground key → ¬ command.Sees key)
    (shelf : Punctual) : Agree ground shelf (Cache.answer command shelf).2 := by
  by_cases outage : command.kind ∈ shelf.failing
  · rw [answer_of_failing outage]
    exact ⟨rfl, rfl, fun _ _ => rfl⟩
  · rw [answer_eq outage]
    exact ⟨perform_failing .., perform_now .., fun key member =>
      perform_frame (unseen key member) shelf⟩

/-- Whatever a cache answers it may answer. -/
theorem mayAnswer {command : Command} {answer : command.Answer} {left : Punctual}
    (answered : Cache.answer command shelf = (.ok answer, left)) : command.MayAnswer answer := by
  cases command with
  | list pattern =>
    by_cases outage : (Command.list pattern).kind ∈ shelf.failing
    · rw [answer_of_failing outage] at answered
      cases answered
    · rw [answer_eq outage] at answered
      cases answered
      intro key listed
      exact (List.mem_filter.mp listed).2
  | write => trivial
  | expire => trivial
  | present => trivial
  | read => trivial
  | readAll => trivial
  | delete => trivial

namespace Agree

/-- What cannot be told apart cannot be told apart the other way round. -/
theorem symm (agree : Agree ground shelf other) : Agree ground other shelf where
  failing := agree.failing.symm
  now := agree.now.symm
  entries key member := (agree.entries key member).symm

/-- Agreement goes on along what comes after. -/
theorem trans {last : Punctual} (first : Agree ground shelf other)
    (second : Agree ground other last) : Agree ground shelf last where
  failing := second.failing.trans first.failing
  now := second.now.trans first.now
  entries key member := (second.entries key member).trans (first.entries key member)

/-- Caches that agree on a ground agree on any part of it. -/
theorem mono {part : String → Prop} (agree : Agree ground shelf other)
    (inside : ∀ key, part key → ground key) : Agree part shelf other where
  failing := agree.failing
  now := agree.now
  entries key member := agree.entries key (inside key member)

/-- Caches that agree on every key are one cache. -/
theorem eq (agree : ∀ key, Agree (· = key) shelf other) : other = shelf := by
  obtain ⟨failing, now, -⟩ := agree ""
  have entries : other.entries = shelf.entries := by
    apply Std.ExtTreeMap.ext_getElem?
    intro key
    exact (agree key).entries key rfl
  cases shelf
  cases other
  cases failing
  cases now
  cases entries
  rfl

end Agree

variable {α β : Type} {dialogue : Dialogue α}

/-- A dialogue leaves everything as it is that is off its ground. -/
theorem hold_frame (keeps : dialogue.KeepsTo ground) {off : String → Prop}
    (apart : ∀ key, off key → ¬ ground key) (shelf : Punctual) :
    Agree off shelf (dialogue.hold shelf).2 := by
  -- The induction is on the dialogue, each of whose commands leaves it so for the next.
  induction keeps generalizing shelf with
  | done => exact ⟨rfl, rfl, fun _ _ => rfl⟩
  | fail => exact ⟨rfl, rfl, fun _ _ => rfl⟩
  | @ask command stage next inside _ ih =>
    have framed := answer_frame (fun key member => mt (inside key) (apart key member)) shelf
    rw [Dialogue.hold]
    cases answered : Cache.answer command shelf with
    | mk answer left =>
      rw [answered] at framed
      cases answer with
      | error fault => exact framed
      | ok answer => exact framed.trans (ih answer (mayAnswer answered) left)

/-- A dialogue is answered alike over caches that agree on its ground, and leaves them so. -/
theorem hold_congr (keeps : dialogue.KeepsTo ground) (agree : Agree ground shelf other) :
    (dialogue.hold other).1 = (dialogue.hold shelf).1 ∧
      Agree ground (dialogue.hold shelf).2 (dialogue.hold other).2 := by
  induction keeps generalizing shelf other with
  | done => exact ⟨rfl, agree⟩
  | fail => exact ⟨rfl, agree⟩
  | @ask command stage next inside _ ih =>
    obtain ⟨same, still⟩ := agree.answer inside
    rw [Dialogue.hold, Dialogue.hold]
    cases answered : Cache.answer command shelf with
    | mk answer left =>
      cases answeredOther : Cache.answer command other with
      | mk answerOther leftOther =>
        rw [answered, answeredOther] at same still
        cases same
        cases answer with
        | error fault => exact ⟨rfl, still⟩
        | ok answer => exact ih answer (mayAnswer answered) still

variable {first : Dialogue α} {second : Dialogue β} {firstGround secondGround : String → Prop}

/-- On a key that the first of two dialogues does not see, it does not matter whether the first one
is held before the second or after it. -/
theorem hold_agree_of_unseen (keepsFirst : first.KeepsTo firstGround)
    (keepsSecond : second.KeepsTo secondGround)
    (apart : ∀ key, secondGround key → ¬ firstGround key) (unseen : ¬ firstGround key)
    (shelf : Punctual) :
    Agree (· = key) (first.hold (second.hold shelf).2).2 (second.hold (first.hold shelf).2).2 := by
  -- The key is as the second dialogue leaves it, which finds its ground and the key untouched.
  have after : Agree (· = key) (second.hold shelf).2 (first.hold (second.hold shelf).2).2 := by
    refine hold_frame keepsFirst (fun other same => ?_) _
    exact same ▸ unseen
  have untouched : Agree (fun other => secondGround other ∨ other = key) shelf
      (first.hold shelf).2 := by
    refine hold_frame keepsFirst (fun other either => ?_) shelf
    rcases either with member | same
    · exact apart other member
    · exact same ▸ unseen
  have alike := (hold_congr (keepsSecond.mono fun _ => Or.inl) untouched).2
  exact after.symm.trans (alike.mono fun _ => Or.inr)

/-- Two dialogues whose grounds have no key in common leave the same cache in either order, and the
one that comes second is answered as if it came first. -/
theorem hold_commute (keepsFirst : first.KeepsTo firstGround)
    (keepsSecond : second.KeepsTo secondGround)
    (apart : ∀ key, firstGround key → ¬ secondGround key) (shelf : Punctual) :
    (second.hold (first.hold shelf).2).1 = (second.hold shelf).1 ∧
      (second.hold (first.hold shelf).2).2 = (first.hold (second.hold shelf).2).2 := by
  have opposite : ∀ key, secondGround key → ¬ firstGround key :=
    fun key member other => apart key other member
  refine ⟨(hold_congr keepsSecond (hold_frame keepsFirst opposite shelf)).1,
    Agree.eq fun key => ?_⟩
  -- No key is seen by both dialogues.
  by_cases seen : firstGround key
  · exact (hold_agree_of_unseen keepsSecond keepsFirst apart (apart key seen) shelf).symm
  · exact hold_agree_of_unseen keepsFirst keepsSecond opposite seen shelf

end Punctual

end TenantSessions
