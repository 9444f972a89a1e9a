import TenantSessions.Proofs.Cache.Link
import TenantSessions.Proofs.Record
import Std.Data.String.ToNat

/-!
What a link and a server tell each other. A command is told in words, from which a server learns all
that it needs, and its answer is told by a reply, from which the link hears just that answer. There
is such a reply for every answer, as long as a count fits a word.
-/

namespace TenantSessions

/-- Whether a reply to a command tells an answer, in the type that servers use for it. -/
inductive Reply.Tells : Reply → (command : Command) → command.Answer → Prop where
  | write (key : String) (pairs : List (String × String)) :
      Tells (.status "OK") (.write key pairs) ()
  /-- The number says whether there is such a key, which is no part of the answer. -/
  | expire (key : String) (life : Lifetime) (changed : Int64) :
      Tells (.integer changed) (.expire key life) ()
  | present (key : String) (there : Bool) :
      Tells (.integer (if there then 1 else 0)) (.present key) there
  | missing (key field : String) : Tells .nil (.read key field) none
  | found (key field text : String) : Tells (.bulk text) (.read key field) (some text)
  /-- The fields follow each other in any order. -/
  | readAll (key : String) (pairs : List (String × String)) :
      Tells (.array (pairs.flatMap fun pair => [.bulk pair.1, .bulk pair.2])) (.readAll key)
        (.ofPairs pairs)
  | list (pattern : String) (keys : List String) :
      Tells (.array (keys.map .bulk)) (.list pattern) keys
  | delete (keys : List String) {count : Nat} {number : Int64} (counted : number.toInt = count) :
      Tells (.integer number) (.delete keys) count

/-- Whether a server has a number for an answer, if that is a count. -/
def Command.Countable : (command : Command) → command.Answer → Prop
  | .delete _, count => count ≤ 9223372036854775807
  | _, _ => True

namespace Reply

/-- Some fields are told by their pairs, in whatever order these come. -/
theorem tells_of_perm (key : String) {fields : Fields} {pairs : List (String × String)}
    (same : pairs.Perm fields.toList) :
    Tells (.array (pairs.flatMap fun pair => [.bulk pair.1, .bulk pair.2])) (.readAll key)
      fields := by
  rw [← Fields.ofPairs_of_perm same]
  exact .readAll key pairs

/-- Every answer is told by some reply, unless it is a count that no number stands for. -/
theorem exists_tells (command : Command) (answer : command.Answer)
    (countable : command.Countable answer) : ∃ reply : Reply, reply.Tells command answer := by
  cases command with
  | write key pairs => exact ⟨_, .write key pairs⟩
  | expire key life => exact ⟨_, .expire key life 1⟩
  | present key => exact ⟨_, .present key answer⟩
  | read key field =>
    cases answer with
    | none => exact ⟨_, .missing key field⟩
    | some text => exact ⟨_, .found key field text⟩
  | readAll key => exact ⟨_, tells_of_perm key (.refl _)⟩
  | list pattern => exact ⟨_, .list pattern answer⟩
  | delete keys =>
    have fits : Decimal.Fits (answer : Nat) := ⟨by omega, Int.ofNat_le.mpr countable⟩
    exact ⟨_, .delete keys fits.toInt_ofInt⟩

/-- Texts signal no error. -/
theorem signalIn?_bulk (texts : List String) : signalIn? (texts.map .bulk) = none := by
  induction texts with
  | nil => rfl
  | cons text texts ih => simpa [signalIn?, signal?] using ih

/-- Texts are read as themselves. -/
theorem mapM_toText_bulk (texts : List String) :
    (texts.map Reply.bulk).mapM toText = .ok texts := by
  induction texts with
  | nil => rfl
  | cons text texts ih =>
    rw [List.map_cons, List.mapM_cons, ih]
    rfl

/-- Pairs of texts signal no error. -/
theorem signalIn?_pairs (pairs : List (String × String)) :
    signalIn? (pairs.flatMap fun pair => [.bulk pair.1, .bulk pair.2]) = none := by
  induction pairs with
  | nil => rfl
  | cons pair pairs ih => simpa [signalIn?, signal?] using ih

/-- Pairs of texts are read as themselves. -/
theorem pairs?_pairs (pairs : List (String × String)) :
    pairs? (pairs.flatMap fun pair => [.bulk pair.1, .bulk pair.2]) = some (.ok pairs) := by
  -- The reader takes two texts at a time, which are one pair.
  induction pairs with
  | nil => rfl
  | cons pair pairs ih =>
    rw [List.flatMap_cons, List.cons_append, List.cons_append, List.nil_append, pairs?, ih]
    rfl

/-- A number that is a count is the count when it is read as a word without a sign. -/
theorem toNat_toUInt64_of_counted {count : Nat} {number : Int64} (counted : number.toInt = count) :
    number.toUInt64.toNat = count := by
  -- It is not negative, so nothing wraps around.
  have positive : 0 ≤ number := by
    rw [Int64.le_iff_toInt_le, counted]
    exact Int.natCast_nonneg count
  rw [Int64.toNat_toUInt64_of_le positive, Int64.toNatClampNeg, counted, Int.toNat_natCast]

/-- A reply that signals no error is heard as what it reads as. -/
theorem hear_of_read {reply : Reply} {command : Command} {answer : command.Answer}
    (quiet : reply.signal? = none) (read : command.readReply reply = .ok answer) :
    command.hear reply = .ok answer := by
  -- An error would count first, so it is ruled out before the type of the reply is looked at.
  rw [Command.hear, quiet]
  show (command.readReply reply).mapError _ = .ok answer
  rw [read]
  rfl

/-- Whatever a reply tells is heard. -/
theorem Tells.hear {reply : Reply} {command : Command} {answer : command.Answer}
    (told : reply.Tells command answer) : command.hear reply = .ok answer := by
  -- The replies to orders are not looked at, and single values are read as they are.
  cases told with
  | write => rfl
  | expire => rfl
  | present key there => cases there <;> rfl
  | missing => rfl
  | found => rfl
  | readAll key pairs =>
    -- The texts pair up, and the pairs stand for the fields.
    refine hear_of_read (signalIn?_pairs pairs) ?_
    simp only [Command.readReply, toFields, pairs?_pairs]
    rfl
  | list pattern keys => exact hear_of_read (signalIn?_bulk keys) (mapM_toText_bulk keys)
  | delete keys counted =>
    refine hear_of_read rfl ?_
    rw [Command.readReply, toCount, toNat_toUInt64_of_counted counted]

end Reply

namespace Command

/-- Pairs that follow each other are told apart. -/
theorem flatMap_pairs_inj {pairs others : List (String × String)}
    (same : (pairs.flatMap fun pair => [pair.1, pair.2]) =
      others.flatMap fun pair => [pair.1, pair.2]) : pairs = others := by
  -- The first two texts are the first pair, and the texts behind them tell the others.
  induction pairs generalizing others with
  | nil =>
    cases others with
    | nil => rfl
    | cons other others => simp at same
  | cons pair pairs ih =>
    cases others with
    | nil => simp at same
    | cons other others =>
      simp only [List.flatMap_cons, List.cons_append, List.nil_append, List.cons.injEq] at same
      obtain ⟨name, value, rest⟩ := same
      rw [Prod.ext name value, ih rest]

/-- The words of a command tell the command, and of a lifetime its milliseconds. -/
theorem words_cases {command other : Command} (same : command.words = other.words) :
    command = other ∨ ∃ key life otherLife, command = .expire key life ∧
      other = .expire key otherLife ∧ life.millis = otherLife.millis := by
  -- The first word tells the kind, and the words behind it what the command is about.
  cases command with
  | write key pairs =>
    cases other with
    | write otherKey others =>
      simp only [words, List.cons_append, List.nil_append, List.cons.injEq, true_and] at same
      rw [same.1, flatMap_pairs_inj same.2]
      exact .inl rfl
    | _ => simp [words] at same
  | expire key life =>
    cases other with
    | expire otherKey otherLife =>
      simp only [words, List.cons.injEq, true_and, and_true] at same
      obtain ⟨rfl, millis⟩ := same
      -- What a lifetime has beyond whole milliseconds is rounded away before it is sent.
      exact .inr ⟨key, life, otherLife, rfl, rfl, Nat.repr_inj.mp millis⟩
    | _ => simp [words] at same
  | present key =>
    cases other with
    | present otherKey => simpa [words] using same
    | _ => simp [words] at same
  | read key field =>
    cases other with
    | read otherKey otherField => simpa [words] using same
    | _ => simp [words] at same
  | readAll key =>
    cases other with
    | readAll otherKey => simpa [words] using same
    | _ => simp [words] at same
  | list pattern =>
    cases other with
    | list otherPattern => simpa [words] using same
    | _ => simp [words] at same
  | delete keys =>
    cases other with
    | delete otherKeys => simpa [words] using same
    | _ => simp [words] at same

end Command

namespace Memory

variable {memory next : Memory}

/-- A key is limited just where limits are not made to fail and neither the command nor the clock
refuses the lifetime. -/
theorem answer_expire_iff {key : String} {life : Lifetime} :
    Cache.answer (.expire key life) memory = (.ok (), next) ↔
      Command.Kind.expire ∉ memory.failing ∧ life.millis ≤ Lifetime.maxMillis ∧
        life.overAt memory.now ≤ Instant.horizon ∧
        memory.setDeadline key (life.overAt memory.now) = next := by
  by_cases outage : Command.Kind.expire ∈ memory.failing
  · have failed : Cache.answer (.expire key life) memory = (.error (.injected .expire), memory) :=
      if_pos outage
    simp [failed, outage]
  · have performed : Cache.answer (.expire key life) memory = memory.expire key life :=
      if_neg outage
    rw [performed, expire_eq]
    -- What may be refused is refused in the order of the conditions.
    by_cases long : Lifetime.maxMillis < life.millis
    · simp [long, Nat.not_le.mpr long]
    by_cases late : Instant.horizon < life.overAt memory.now
    · simp [long, late, Nat.not_le.mpr late]
    · simp [outage, long, late, Nat.not_lt.mp long, Nat.not_lt.mp late]

/-- A key that has been limited to a lifetime can be limited to another of as many milliseconds, and
nothing else comes of it. -/
theorem answer_expire_of_millis {key : String} {life otherLife : Lifetime}
    (millis : life.millis = otherLife.millis)
    (answered : Cache.answer (.expire key life) memory = (.ok (), next)) :
    Cache.answer (.expire key otherLife) memory = (.ok (), next) := by
  rw [answer_expire_iff, Lifetime.overAt] at answered ⊢
  rw [← millis]
  exact answered

/-- Whatever a cache in memory performs and is told of, it performs from the words alone. -/
theorem answer_of_words {command other : Command} (same : command.words = other.words)
    {answer : command.Answer} {reply : Reply}
    (answered : Cache.answer command memory = (.ok answer, next))
    (told : reply.Tells command answer) :
    ∃ heard : other.Answer, Cache.answer other memory = (.ok heard, next) ∧
      reply.Tells other heard := by
  rcases Command.words_cases same with rfl | ⟨key, life, otherLife, rfl, rfl, millis⟩
  · exact ⟨answer, answered, told⟩
  · -- Lifetimes are all that words may leave open, and only their milliseconds count.
    cases told with
    | expire key life changed =>
      exact ⟨(), answer_expire_of_millis millis answered, .expire ..⟩

end Memory

end TenantSessions
