import TenantSessions.Proofs.Session.Creation

/-!
A cache that registrars use holds two tables, the sessions by identity and the bindings by API
token; every operation changes at most one row of each, or deletes sessions.
-/

namespace TenantSessions.Punctual

/-- The session of an identity. -/
def session? (shelf : Punctual) (who : Identity) : Option Entry :=
  shelf.entries[Key.session who]?

/-- The binding of an API token. -/
def binding? (shelf : Punctual) (apiToken : String) : Option Entry :=
  shelf.entries[Key.apiToken apiToken]?

/-- What an entry becomes when fields are written over those that it has. -/
def written (row? : Option Entry) (pairs : List (String × String)) : Entry :=
  { row?.getD .blank with fields := (row?.getD .blank).fields.write pairs }

/-- An entry that is written keeps its deadline, and a new one has none. -/
theorem written_eq (row? : Option Entry) (pairs : List (String × String)) :
    written row? pairs =
      ⟨(row?.getD .blank).fields.write pairs, row?.bind Entry.deadline⟩ := by
  cases row? <;> rfl

/-- What an entry becomes when it is placed with a deadline, unless its lifetime is over at once. -/
def placed? (row? : Option Entry) (pairs : List (String × String)) (life : Lifetime)
    (deadline : Instant) : Option Entry :=
  if life.millis = 0 then none
  else some ⟨(row?.getD .blank).fields.write pairs, some deadline⟩

/-- Placing fields that have been written already places the same entry. -/
theorem placed?_written (row? : Option Entry) (pairs : List (String × String)) (life : Lifetime)
    (deadline : Instant) :
    placed? (some (written row? pairs)) pairs life deadline = placed? row? pairs life deadline := by
  rw [placed?, placed?, written, Option.getD_some, Fields.write_write]

/-- Placing fields that have been placed already places the same entry. -/
theorem placed?_placed? (row? : Option Entry) (pairs : List (String × String)) (life : Lifetime)
    (earlier deadline : Instant) :
    placed? (placed? row? pairs life earlier) pairs life deadline =
      placed? row? pairs life deadline := by
  -- A lifetime that is over at once leaves nothing either time.
  rw [placed?, placed?, placed?]
  by_cases zero : life.millis = 0
  · rw [if_pos zero, if_pos zero]
  · rw [if_neg zero, if_neg zero, if_neg zero, Option.getD_some, Fields.write_write]

variable (shelf : Punctual) (who other : Identity) (apiToken presented : String)
  (pairs : List (String × String)) (life : Lifetime)

/-- Writing a session changes the row of its identity alone. -/
@[simp] theorem session?_write_session :
    (shelf.write (Key.session who) pairs).session? other =
      if who = other then some (written (shelf.session? who) pairs) else shelf.session? other := by
  -- Sessions of different identities have different names.
  simp only [session?, getElem?_write, Key.session_inj, written]

/-- Writing a session changes no binding. -/
@[simp] theorem binding?_write_session :
    (shelf.write (Key.session who) pairs).binding? apiToken = shelf.binding? apiToken := by
  -- No binding has the name of a session.
  simp [binding?, getElem?_write]

/-- Writing a binding changes the row of its token alone. -/
@[simp] theorem binding?_write_binding :
    (shelf.write (Key.apiToken apiToken) pairs).binding? presented =
      if apiToken = presented then some (written (shelf.binding? apiToken) pairs)
      else shelf.binding? presented := by
  -- Bindings of different tokens have different names.
  simp only [binding?, getElem?_write, Key.apiToken_inj, written]

/-- Writing a binding changes no session. -/
@[simp] theorem session?_write_binding :
    (shelf.write (Key.apiToken apiToken) pairs).session? who = shelf.session? who := by
  simp [session?, getElem?_write]

/-- Placing a session changes the row of its identity alone. -/
@[simp] theorem session?_place_session :
    (shelf.place (Key.session who) pairs life).session? other =
      if who = other then placed? (shelf.session? who) pairs life (life.overAt shelf.now)
      else shelf.session? other := by
  simp only [session?, getElem?_place, Key.session_inj, placed?]

/-- Placing a session changes no binding. -/
@[simp] theorem binding?_place_session :
    (shelf.place (Key.session who) pairs life).binding? apiToken = shelf.binding? apiToken := by
  simp [binding?, getElem?_place]

/-- Binding a token changes no session. -/
@[simp] theorem session?_bound :
    (shelf.bound who apiToken life).session? other = shelf.session? other := by
  -- Either nothing is bound, or it is placed under the name of a binding.
  unfold bound
  split
  · rfl
  · simp [session?, getElem?_place]

/-- Binding a token changes the row of the token alone, and an empty token is not bound. -/
@[simp] theorem binding?_bound :
    (shelf.bound who apiToken life).binding? presented =
      if apiToken ≠ "" ∧ apiToken = presented then
        placed? (shelf.binding? apiToken) who.fields life (life.overAt shelf.now)
      else shelf.binding? presented := by
  -- An empty token has no row; the row of any other is placed.
  unfold bound
  by_cases empty : apiToken = ""
  · simp [empty]
  · simp only [binding?, empty, if_false, getElem?_place, Key.apiToken_inj, placed?, ne_eq,
      not_false_eq_true, true_and]

/-- Deleting the session of an identity changes the row of this identity alone. -/
@[simp] theorem session?_delete_session :
    (shelf.delete [Key.session who]).session? other =
      if who = other then none else shelf.session? other := by
  simp only [session?, getElem?_delete, List.mem_singleton, Key.session_inj, eq_comm]

/-- Deleting a session changes no binding. -/
@[simp] theorem binding?_delete_session :
    (shelf.delete [Key.session who]).binding? apiToken = shelf.binding? apiToken := by
  simp [binding?, getElem?_delete]

/-- At a later instant a session is there until its deadline. -/
theorem session?_reach (later : Instant) :
    (shelf.reach later).session? who =
      (shelf.session? who).filter fun entry => !entry.hasLapsed later :=
  shelf.getElem?_reach later (Key.session who)

/-- The names that an org's pattern selects. -/
def orgKeys (org : Id) : List String :=
  shelf.entries.keys.filter (Glob.accepts (Key.orgPattern org))

/-- An org's pattern selects the sessions of the org that are there. -/
theorem session_mem_orgKeys (org : Id) :
    Key.session who ∈ shelf.orgKeys org ↔ who.org = org ∧ (shelf.session? who).isSome := by
  -- A name is selected if it is there and the pattern accepts it, which depends on the org alone.
  simp [orgKeys, session?, Key.accepts_orgPattern_session, and_comm]

/-- An org's pattern selects no binding. -/
theorem apiToken_notMem_orgKeys (org : Id) : Key.apiToken apiToken ∉ shelf.orgKeys org := by
  simp [orgKeys, Key.accepts_orgPattern_apiToken]

/-- Deleting what an org's pattern selects deletes the sessions of the org. -/
@[simp] theorem session?_delete_orgKeys (org : Id) :
    (shelf.delete (shelf.orgKeys org)).session? who =
      if who.org = org then none else shelf.session? who := by
  have member := shelf.session_mem_orgKeys who org
  rw [session?, getElem?_delete]
  by_cases same : who.org = org
  · rw [if_pos same]
    -- A session of the org that is not there is not selected, but there is nothing to delete.
    cases found : shelf.session? who with
    | none => rw [show shelf.entries[Key.session who]? = none from found, ite_self]
    | some entry => rw [if_pos (member.mpr ⟨same, by rw [found]; rfl⟩)]
  · rw [if_neg fun selected => same (member.mp selected).1, if_neg same]
    rfl

/-- Deleting what an org's pattern selects deletes no binding. -/
@[simp] theorem binding?_delete_orgKeys (org : Id) :
    (shelf.delete (shelf.orgKeys org)).binding? apiToken = shelf.binding? apiToken := by
  -- The name of a binding is not selected, whatever its token looks like.
  rw [binding?, getElem?_delete, if_neg (shelf.apiToken_notMem_orgKeys apiToken org)]
  rfl

/-- An org's pattern selects each name once. -/
theorem nodup_orgKeys (org : Id) : (shelf.orgKeys org).Nodup :=
  Std.ExtTreeMap.nodup_keys.filter _

/-- All names that an org's pattern selects are there. -/
theorem size_orgKeys (org : Id) :
    (shelf.entries.filter fun key _ => key ∈ shelf.orgKeys org).size =
      (shelf.orgKeys org).length := by
  -- A name that is there is selected exactly if the pattern accepts it.
  have selected : shelf.entries.keys.filter (fun key => decide (key ∈ shelf.orgKeys org)) =
      shelf.orgKeys org := by
    apply List.filter_congr
    intro key there
    simp [orgKeys, Std.ExtTreeMap.mem_keys.mp there]
  rw [← Std.ExtTreeMap.length_keys, Std.ExtTreeMap.keys_filter_key, selected]

/-- Once what an org's pattern selects has been deleted, the pattern selects nothing. -/
theorem orgKeys_delete_orgKeys (org : Id) :
    (shelf.delete (shelf.orgKeys org)).orgKeys org = [] := by
  rw [orgKeys, List.filter_eq_nil_iff]
  intro key there accepted
  have kept : (shelf.delete (shelf.orgKeys org)).entries[key]?.isSome := by simpa using there
  rw [getElem?_delete] at kept
  -- What is still there was there before, and would have been selected.
  by_cases selected : key ∈ shelf.orgKeys org
  · rw [if_pos selected] at kept
    cases kept
  · rw [if_neg selected] at kept
    exact selected (List.mem_filter.mpr ⟨by simpa using kept, accepted⟩)

/-- Nothing is kept but sessions and bindings. -/
def Tidy : Prop :=
  ∀ key, shelf.entries[key]?.isSome → Key.IsName key

variable {shelf} {key : String}

/-- The names that an org's pattern selects in a tidy cache are those of its sessions. -/
theorem Tidy.mem_orgKeys (tidy : shelf.Tidy) {org : Id} (selected : key ∈ shelf.orgKeys org) :
    ∃ who, key = Key.session who ∧ who.org = org ∧ (shelf.session? who).isSome := by
  have there : shelf.entries[key]?.isSome := by
    simpa using (List.mem_filter.mp selected).1
  -- A key that is there is the name of a session or of a binding, and no binding is selected.
  rcases tidy key there with ⟨who, rfl⟩ | ⟨apiToken, rfl⟩
  · exact ⟨who, rfl, (shelf.session_mem_orgKeys who org).mp selected⟩
  · exact absurd selected (shelf.apiToken_notMem_orgKeys apiToken org)

/-- A cache stays tidy when a session or a binding is written. -/
theorem Tidy.write (tidy : shelf.Tidy) (named : Key.IsName key) : (shelf.write key pairs).Tidy := by
  -- The key that is written has a name of the right kind, and every other was there before.
  intro other there
  rw [getElem?_write] at there
  by_cases same : key = other
  · exact same ▸ named
  · rw [if_neg same] at there
    exact tidy other there

/-- A cache stays tidy when a session or a binding is placed. -/
theorem Tidy.place (tidy : shelf.Tidy) (named : Key.IsName key) :
    (shelf.place key pairs life).Tidy := by
  -- As for a write; a key that a lifetime of nothing takes away does no harm.
  intro other there
  rw [getElem?_place] at there
  by_cases same : key = other
  · exact same ▸ named
  · rw [if_neg same] at there
    exact tidy other there

/-- A cache stays tidy when keys are deleted. -/
theorem Tidy.delete (tidy : shelf.Tidy) (keys : List String) : (shelf.delete keys).Tidy := by
  intro other there
  rw [getElem?_delete] at there
  by_cases named : other ∈ keys
  · rw [if_pos named] at there
    cases there
  · rw [if_neg named] at there
    exact tidy other there

/-- A cache stays tidy when time passes. -/
theorem Tidy.reach (tidy : shelf.Tidy) (later : Instant) : (shelf.reach later).Tidy := by
  intro key there
  rw [getElem?_reach, Option.isSome_iff_exists] at there
  -- What is there later has been there all along.
  obtain ⟨entry, found⟩ := there
  exact tidy key (by rw [(Option.filter_eq_some_iff.mp found).1]; rfl)

end TenantSessions.Punctual

namespace TenantSessions.Creation

variable {shelf left : Punctual} {who : Identity} {bearer apiToken : String}
  {bindingLife life : Lifetime} {answer : Except Failure Unit} {entry : Entry}

/-- A creation leaves the sessions of all other identities alone. -/
theorem session?_other (ended : Creation shelf who bearer apiToken bindingLife life answer left)
    {other : Identity} (different : who ≠ other) : left.session? other = shelf.session? other :=
  -- The session of another identity has a name of its own, and not that of a binding.
  ended.frame (fun same => different (Key.session_injective same).symm) fun _ =>
    Key.session_ne_apiToken other apiToken

/-- A creation leaves the bindings of all other API tokens alone. -/
theorem binding?_other (ended : Creation shelf who bearer apiToken bindingLife life answer left)
    {presented : String} (different : apiToken ≠ presented) :
    left.binding? presented = shelf.binding? presented :=
  ended.frame (Key.apiToken_ne_session presented who) fun _ same =>
    different (Key.apiToken_inj.mp same).symm

/-- The session of its identity that a creation leaves was there before, or has been written by a
creation that is not refused. -/
theorem session?_own (ended : Creation shelf who bearer apiToken bindingLife life answer left)
    (found : left.session? who = some entry) :
    shelf.session? who = some entry ∨
      Session.refusal? who bearer apiToken bindingLife life = none ∧
        entry.fields = ((shelf.session? who).getD .blank).fields.write
          (Grant.ofTokens who bearer apiToken).fields := by
  cases ended with
  | refused => exact .inl found
  | unwritten => exact .inl found
  | halfBound =>
    rw [Punctual.session?_write_binding] at found
    exact .inl found
  | halfKept accepted =>
    rw [Punctual.session?_write_session, if_pos rfl, Punctual.session?_bound,
      Option.some.injEq] at found
    exact .inr ⟨accepted, found ▸ rfl⟩
  | complete accepted =>
    rw [Punctual.session?_place_session, if_pos rfl, Punctual.session?_bound, Punctual.placed?,
      Option.ite_none_left_eq_some, Option.some.injEq] at found
    exact .inr ⟨accepted, found.2 ▸ rfl⟩

/-- The binding of its API token that a creation leaves was there before, or has been written by a
creation that has a token and is not refused. -/
theorem binding?_own (ended : Creation shelf who bearer apiToken bindingLife life answer left)
    (found : left.binding? apiToken = some entry) :
    shelf.binding? apiToken = some entry ∨
      apiToken ≠ "" ∧ Session.refusal? who bearer apiToken bindingLife life = none ∧
        entry.fields = ((shelf.binding? apiToken).getD .blank).fields.write who.fields := by
  -- Whether the session is begun does not matter, once the binding is complete.
  have complete (accepted : Session.refusal? who bearer apiToken bindingLife life = none)
      (bound : (shelf.bound who apiToken bindingLife).binding? apiToken = some entry) :
      shelf.binding? apiToken = some entry ∨
        apiToken ≠ "" ∧ Session.refusal? who bearer apiToken bindingLife life = none ∧
          entry.fields = ((shelf.binding? apiToken).getD .blank).fields.write who.fields := by
    rw [Punctual.binding?_bound] at bound
    by_cases filled : apiToken = ""
    · rw [if_neg fun both => both.1 filled] at bound
      exact .inl bound
    · rw [if_pos ⟨filled, rfl⟩, Punctual.placed?, Option.ite_none_left_eq_some,
        Option.some.injEq] at bound
      exact .inr ⟨filled, accepted, bound.2 ▸ rfl⟩
  cases ended with
  | refused => exact .inl found
  | unwritten => exact .inl found
  | halfBound accepted filled =>
    rw [Punctual.binding?_write_binding, if_pos rfl, Option.some.injEq] at found
    exact .inr ⟨filled, accepted, found ▸ rfl⟩
  | halfKept accepted =>
    rw [Punctual.binding?_write_session] at found
    exact complete accepted found
  | complete accepted =>
    rw [Punctual.binding?_place_session] at found
    exact complete accepted found

end TenantSessions.Creation
