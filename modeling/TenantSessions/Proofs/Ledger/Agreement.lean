import TenantSessions.Proofs.Ledger
import TenantSessions.Proofs.Session.Check
import TenantSessions.Proofs.Session.Revocation

/-!
A cache in which nothing fails is the copy of a ledger: its sessions and bindings are the rows that
count there. Every operation of a registrar keeps cache and ledger copies of each other.
-/

namespace TenantSessions

namespace Ledger

/-- The entry of a session that has tokens. -/
def sessionEntry (who : Identity) (row : Dated Tokens) : Entry where
  fields := .ofPairs (Grant.fields ⟨who, row.value.bearer, row.value.apiToken⟩)
  deadline := row.deadline

/-- The entry of a binding to an identity. -/
def bindingEntry (row : Dated Identity) : Entry where
  fields := .ofPairs row.value.fields
  deadline := row.deadline

variable (ledger : Ledger) (who other : Identity) (apiToken presented : String)

/-- Setting a row changes the session of its identity alone. -/
theorem session?_insert (row : Dated Tokens) :
    session? { ledger with sessions := ledger.sessions.insert who row } other =
      if who = other then if row.counts ledger.now then some row else none
      else ledger.session? other := by
  -- The new row is there, but it is a session only if it counts.
  simp only [session?, Std.ExtTreeMap.getElem?_insert, Std.LawfulEqCmp.compare_eq_iff_eq]
  by_cases same : who = other
  · simp [same, Option.filter]
  · simp [same]

/-- Setting a row changes the binding of its token alone. -/
theorem binding?_insert (row : Dated Identity) :
    binding? { ledger with bindings := ledger.bindings.insert apiToken row } presented =
      if apiToken = presented then if row.counts ledger.now then some row else none
      else ledger.binding? presented := by
  -- The new row is there, but it is a binding only if it counts.
  simp only [binding?, Std.ExtTreeMap.getElem?_insert, Std.LawfulEqCmp.compare_eq_iff_eq]
  by_cases same : apiToken = presented
  · simp [same, Option.filter]
  · simp [same]

/-- A row that counts has a deadline that has not come, if it has one. -/
theorem counts_of_session? {row : Dated Tokens} (found : ledger.session? who = some row) :
    row.counts ledger.now = true := by
  -- Rows that do not count are not found.
  rw [session?, Option.filter_eq_some_iff] at found
  exact found.2

/-- A binding that counts has a deadline that has not come, if it has one. -/
theorem counts_of_binding? {row : Dated Identity} (found : ledger.binding? apiToken = some row) :
    row.counts ledger.now = true := by
  rw [binding?, Option.filter_eq_some_iff] at found
  exact found.2

/-- A cache is the copy of a ledger if nothing fails in it, its clock and the ledger's agree, and
its sessions and bindings are the rows that count. -/
structure Copied (ledger : Ledger) (shelf : Punctual) : Prop where
  sound : shelf.failing = []
  now : ledger.now = shelf.now
  horizon : ledger.horizon = some Instant.horizon
  tidy : shelf.Tidy
  session : ∀ who, shelf.session? who = (ledger.session? who).map (sessionEntry who)
  binding : ∀ apiToken, shelf.binding? apiToken = (ledger.binding? apiToken).map bindingEntry

variable {ledger} {shelf : Punctual}

/-- A lifetime that can be expressed gets a deadline in the copy exactly if it gets one in the
ledger, and then the same. -/
theorem Copied.limitFault? (copied : ledger.Copied shelf) {life : Lifetime}
    (short : ¬ Lifetime.maxMillis < life.millis) :
    (ledger.deadline? life = some (life.overAt shelf.now) ∧ shelf.limitFault? life = none) ∨
      (ledger.deadline? life = none ∧ shelf.limitFault? life = some (.deadlineTooLate life)) := by
  -- Only the end of the clock can stand in the way, and both know it.
  rw [Punctual.limitFault?, copied.sound, if_neg (List.not_mem_nil), if_neg short, deadline?,
    copied.now, copied.horizon]
  by_cases late : Instant.horizon < life.overAt shelf.now
  · right
    simp [late]
  · left
    simp [late, Nat.not_lt.mp late]

/-- Writing a binding without a deadline copies a row that keeps the deadline it has. -/
theorem Copied.bindingWritten (copied : ledger.Copied shelf) (who : Identity) (apiToken : String) :
    Copied { ledger with
      bindings := ledger.bindings.insert apiToken
        ⟨who, (ledger.binding? apiToken).bind Dated.deadline⟩ }
      (shelf.write (Key.apiToken apiToken) who.fields) where
  sound := copied.sound
  now := copied.now
  horizon := copied.horizon
  tidy := copied.tidy.write who.fields (Key.isName_apiToken apiToken)
  session := by
    intro other
    rw [Punctual.session?_write_binding]
    exact copied.session other
  binding := by
    intro presented
    rw [Punctual.binding?_write_binding, binding?_insert, copied.binding presented,
      copied.binding apiToken]
    by_cases same : apiToken = presented
    · rw [if_pos same, if_pos same]
      -- A row that counts goes on counting with its deadline, and a new one has none.
      cases found : ledger.binding? apiToken with
      | none => rfl
      | some row =>
        have counts : row.counts ledger.now = true := ledger.counts_of_binding? apiToken found
        have kept : Dated.counts ⟨who, row.deadline⟩ ledger.now = true := counts
        simp [kept, Punctual.written, bindingEntry, Fields.write_identity_identity]
    · rw [if_neg same, if_neg same]

/-- Binding a token copies a row with the deadline of its lifetime. -/
theorem Copied.bound (copied : ledger.Copied shelf) (who : Identity) {apiToken : String}
    (filled : apiToken ≠ "") (life : Lifetime) :
    Copied { ledger with
      bindings := ledger.bindings.insert apiToken ⟨who, some (life.overAt shelf.now)⟩ }
      (shelf.bound who apiToken life) where
  sound := by rw [Punctual.bound_failing, copied.sound]
  now := by rw [Punctual.bound_now, copied.now]
  horizon := copied.horizon
  tidy := by
    rw [Punctual.bound, if_neg filled]
    exact copied.tidy.place who.fields life (Key.isName_apiToken apiToken)
  session := by
    intro other
    rw [Punctual.session?_bound]
    exact copied.session other
  binding := by
    intro presented
    rw [Punctual.binding?_bound, binding?_insert, copied.binding presented, copied.binding apiToken]
    by_cases same : apiToken = presented
    · have ends := life.overAt_le shelf.now
      rw [if_pos ⟨filled, same⟩, if_pos same, copied.now]
      -- A lifetime that is over at once leaves no binding that counts.
      by_cases zero : life.millis = 0
      · simp [Punctual.placed?, zero, Dated.counts, ends.mpr zero]
      · have fresh : ((ledger.binding? apiToken).map bindingEntry |>.getD .blank).fields.write
            who.fields = .ofPairs who.fields := by
          cases ledger.binding? apiToken with
          | none => rfl
          | some row => exact Fields.write_identity_identity row.value who
        simp [Punctual.placed?, zero, Dated.counts, mt ends.mp zero, fresh, bindingEntry]
    · rw [if_neg fun both => same both.2, if_neg same]

/-- The fields of a session that is written are those of its tokens, old and new. -/
theorem Copied.fields_written (copied : ledger.Copied shelf) (who : Identity)
    (bearer apiToken : String) :
    ((shelf.session? who).getD .blank).fields.write (Grant.ofTokens who bearer apiToken).fields =
      (sessionEntry who ⟨.renewed ((ledger.session? who).map Dated.value) bearer apiToken,
        none⟩).fields := by
  -- The old tokens are those of the row that counts; there are none if no row does.
  rw [copied.session who]
  cases ledger.session? who with
  | none => simp [sessionEntry, Tokens.renewed, Grant.ofTokens, Entry.blank, Fields.ofPairs]
  | some row =>
    exact Fields.write_grant_grant ⟨who, row.value.bearer, row.value.apiToken⟩
      (Grant.ofTokens who bearer apiToken) rfl

/-- Writing a session without a deadline copies a row that keeps the deadline it has. -/
theorem Copied.sessionWritten (copied : ledger.Copied shelf) (who : Identity)
    (bearer apiToken : String) :
    Copied { ledger with
      sessions := ledger.sessions.insert who
        ⟨.renewed ((ledger.session? who).map Dated.value) bearer apiToken,
          (ledger.session? who).bind Dated.deadline⟩ }
      (shelf.write (Key.session who) (Grant.ofTokens who bearer apiToken).fields) where
  sound := copied.sound
  now := copied.now
  horizon := copied.horizon
  tidy := copied.tidy.write _ (Key.isName_session who)
  session := by
    intro other
    rw [Punctual.session?_write_session, session?_insert, copied.session other]
    by_cases same : who = other
    · subst same
      have fields := copied.fields_written who bearer apiToken
      rw [if_pos rfl, if_pos rfl, Punctual.written, fields, copied.session who]
      -- A row that counts goes on counting with its deadline, and a new one has none.
      cases found : ledger.session? who with
      | none => rfl
      | some row =>
        have counts : row.counts ledger.now = true := ledger.counts_of_session? who found
        have kept (tokens : Tokens) : Dated.counts ⟨tokens, row.deadline⟩ ledger.now = true :=
          counts
        simp [kept, sessionEntry]
    · rw [if_neg same, if_neg same]
  binding := by
    intro presented
    rw [Punctual.binding?_write_session]
    exact copied.binding presented

/-- Placing a session copies a row with the deadline of its lifetime. -/
theorem Copied.sessionPlaced (copied : ledger.Copied shelf) (who : Identity)
    (bearer apiToken : String) (life : Lifetime) :
    Copied { ledger with
      sessions := ledger.sessions.insert who
        ⟨.renewed ((ledger.session? who).map Dated.value) bearer apiToken,
          some (life.overAt shelf.now)⟩ }
      (shelf.place (Key.session who) (Grant.ofTokens who bearer apiToken).fields life) where
  sound := by rw [Punctual.place_failing, copied.sound]
  now := by rw [Punctual.place_now, copied.now]
  horizon := copied.horizon
  tidy := copied.tidy.place _ life (Key.isName_session who)
  session := by
    intro other
    rw [Punctual.session?_place_session, session?_insert, copied.session other]
    by_cases same : who = other
    · subst same
      have ends := life.overAt_le shelf.now
      rw [if_pos rfl, if_pos rfl, Punctual.placed?, copied.fields_written who bearer apiToken,
        copied.now]
      -- A lifetime that is over at once leaves no session that counts.
      by_cases zero : life.millis = 0
      · simp [zero, Dated.counts, ends.mpr zero]
      · simp [zero, Dated.counts, mt ends.mp zero, sessionEntry]
    · rw [if_neg same, if_neg same]
  binding := by
    intro presented
    rw [Punctual.binding?_place_session]
    exact copied.binding presented

/-- Binding a token that can be limited, or none, succeeds in the ledger and keeps it copied. -/
theorem Copied.bind (copied : ledger.Copied shelf) (who : Identity) (apiToken : String)
    (short : apiToken ≠ "" → ¬ Lifetime.maxMillis < ledger.bindingLife.millis)
    (limited : apiToken ≠ "" → shelf.limitFault? ledger.bindingLife = none) :
    ∃ bound : Ledger,
      (if apiToken = "" then (.ok (), ledger) else ledger.bind who apiToken) = (.ok (), bound) ∧
        bound.Copied (shelf.bound who apiToken ledger.bindingLife) := by
  -- Without a token there is nothing to bind, here or there.
  by_cases filled : apiToken = ""
  · refine ⟨ledger, if_pos filled, ?_⟩
    rw [Punctual.bound, if_pos filled]
    exact copied
  · refine ⟨_, ?_, copied.bound who filled ledger.bindingLife⟩
    rcases copied.limitFault? (short filled) with ⟨deadline, -⟩ | ⟨-, failing⟩
    · rw [if_neg filled, Ledger.bind, deadline]
    · rw [limited filled] at failing
      cases failing

/-- A creation answers alike in cache and ledger and keeps them copies of each other. -/
theorem Copied.create (copied : ledger.Copied shelf) (who : Identity) (bearer apiToken : String)
    (life : Lifetime) :
    let held := (Session.create who bearer apiToken ledger.bindingLife life).hold shelf
    held.1 = (ledger.create who bearer apiToken life).1 ∧
      (ledger.create who bearer apiToken life).2.Copied held.2 := by
  intro held
  have ended : Creation shelf who bearer apiToken ledger.bindingLife life held.1 held.2 :=
    shelf.creation who bearer apiToken ledger.bindingLife life
  rw [Ledger.create]
  -- The creation ends in one of its ways, and the ledger ends alike in each of them.
  generalize held.1 = answer, held.2 = left at ended
  cases ended with
  | refused failure refusal =>
    rw [refusal]
    exact ⟨rfl, copied⟩
  | unwritten accepted outage =>
    -- In a copy no write fails.
    rw [copied.sound] at outage
    cases outage
  | halfBound accepted filled fault found =>
    -- Nothing fails, so it is the end of the lifetime that comes too late.
    rcases copied.limitFault? ((Session.short_of_accepted accepted).1 filled) with
      ⟨-, unfailing⟩ | ⟨late, failing⟩
    · rw [unfailing] at found
      cases found
    · rw [failing] at found
      cases found
      rw [accepted]
      dsimp only
      rw [if_neg filled, Ledger.bind, late]
      exact ⟨rfl, copied.bindingWritten who apiToken⟩
  | halfKept accepted limited fault found =>
    obtain ⟨bindingShort, short⟩ := Session.short_of_accepted accepted
    obtain ⟨bound, binds, copied⟩ := copied.bind who apiToken bindingShort limited
    rw [accepted]
    dsimp only
    rw [binds]
    -- Binding the token has left the clock alone, so the session finds the same faults.
    rcases copied.limitFault? short with ⟨-, unfailing⟩ | ⟨late, failing⟩
    · rw [Punctual.limitFault?_bound, found] at unfailing
      cases unfailing
    · rw [Punctual.limitFault?_bound, found] at failing
      cases failing
      dsimp only
      rw [Ledger.keep, late]
      exact ⟨rfl, copied.sessionWritten who bearer apiToken⟩
  | complete accepted limited kept =>
    obtain ⟨bindingShort, short⟩ := Session.short_of_accepted accepted
    obtain ⟨bound, binds, copied⟩ := copied.bind who apiToken bindingShort limited
    rw [accepted]
    dsimp only
    rw [binds]
    -- There is no fault, so the deadline of the session can be named.
    rcases copied.limitFault? short with ⟨deadline, -⟩ | ⟨-, failing⟩
    · dsimp only
      rw [Ledger.keep, deadline]
      exact ⟨rfl, copied.sessionPlaced who bearer apiToken life⟩
    · rw [Punctual.limitFault?_bound, kept] at failing
      cases failing

/-- A session holds a token in its fields exactly if its row has the token. -/
theorem sessionEntry_agrees (who : Identity) (row : Dated Tokens) {presented : String}
    (filled : presented ≠ "") :
    Session.agrees (sessionEntry who row).fields[Record.bearer]? presented =
        decide (row.value.bearer = some presented) ∧
      Session.agrees (sessionEntry who row).fields[Record.apiToken]? presented =
        decide (row.value.apiToken = some presented) := by
  -- Each token stands in a field of its own, and a row has no empty token to present.
  have different : Record.bearer ≠ Record.apiToken := by decide
  constructor
  · rw [Bool.eq_iff_iff, Session.agrees_iff]
    simp [sessionEntry, Fields.ofPairs, Fields.getElem?_write_grant, different, filled]
  · rw [Bool.eq_iff_iff, Session.agrees_iff]
    simp [sessionEntry, Fields.ofPairs, Fields.getElem?_write_grant, filled]

/-- A bearer token is checked alike in cache and ledger. -/
theorem Copied.bearerVerdict (copied : ledger.Copied shelf) (who : Identity) (bearer : String) :
    shelf.bearerVerdict who bearer = ledger.checkBearer who bearer := by
  by_cases empty : bearer = ""
  · -- Both refuse an empty token, if they do not refuse the identity.
    have refused : ∃ failure, Session.require who bearer "" = .error failure := by
      rw [Session.require]
      split
      · exact ⟨_, rfl⟩
      · split
        · exact ⟨_, rfl⟩
        · exact ⟨_, if_pos ⟨empty, rfl⟩⟩
    obtain ⟨failure, refused⟩ := refused
    simp [Punctual.bearerVerdict, checkBearer, refused, Bind.bind, Except.bind]
  · have held : shelf.confirms who Record.bearer bearer =
        (ledger.session? who).any (·.value.bearer = some bearer) := by
      rw [Punctual.confirms, copied.session who, Option.any_map]
      congr 1
      funext row
      exact (sessionEntry_agrees who row empty).1
    rw [Punctual.bearerVerdict, checkBearer, Punctual.verdict_of_sound copied.sound, held]

/-- An API token is resolved alike in cache and ledger. -/
theorem Copied.resolution (copied : ledger.Copied shelf) (apiToken : String) :
    shelf.resolution apiToken = ledger.resolve apiToken := by
  rw [Punctual.resolution, resolve, copied.binding apiToken, copied.sound]
  by_cases empty : apiToken = ""
  · simp only [if_pos empty]
  simp only [if_neg empty, List.not_mem_nil, if_false]
  cases ledger.binding? apiToken with
  | none => rfl
  | some row =>
    have filled : (bindingEntry row).fields.isEmpty = false :=
      Fields.isEmpty_write_identity ∅ row.value
    have named : Identity.ofFields (bindingEntry row).fields = .ok row.value :=
      Identity.ofFields_write ∅ row.value
    -- The binding names the identity of its row, and the session of this identity is a copy too.
    have held : shelf.confirms row.value Record.apiToken apiToken =
        (ledger.session? row.value).any (·.value.apiToken = some apiToken) := by
      rw [Punctual.confirms, copied.session row.value, Option.any_map]
      congr 1
      funext session
      exact (sessionEntry_agrees row.value session empty).2
    rw [Option.map_some]
    simp only [filled, Bool.false_eq_true, if_false, named, Bind.bind, Except.bind,
      Punctual.verdict_of_sound copied.sound, held]
    -- Whether the session of the identity has the token decides.
    cases (ledger.session? row.value).any (·.value.apiToken = some apiToken) with
    | true => rfl
    | false => rfl

/-- Revoking a session keeps cache and ledger copies of each other. -/
theorem Copied.revoke (copied : ledger.Copied shelf) (who : Identity) :
    (ledger.revoke who).Copied (shelf.delete [Key.session who]) where
  sound := copied.sound
  now := copied.now
  horizon := copied.horizon
  tidy := copied.tidy.delete _
  session := by
    intro other
    -- The row is struck whether it counts or not.
    have left : (ledger.revoke who).session? other =
        if who = other then none else ledger.session? other := by
      simp only [session?, Ledger.revoke, Std.ExtTreeMap.getElem?_erase,
        Std.LawfulEqCmp.compare_eq_iff_eq]
      by_cases same : who = other
      · simp [same]
      · simp [same]
    rw [Punctual.session?_delete_session, left, copied.session other]
    by_cases same : who = other
    · simp [same]
    · simp [same]
  binding := by
    intro apiToken
    rw [Punctual.binding?_delete_session]
    exact copied.binding apiToken

/-- The selected names are those of the rows of the org that count. -/
theorem Copied.mem_orgKeys (copied : ledger.Copied shelf) (org : Id) (key : String) :
    key ∈ shelf.orgKeys org ↔
      ∃ who, key = Key.session who ∧ who.org = org ∧ (ledger.session? who).isSome := by
  -- A session is there exactly if its row counts.
  have counted (who : Identity) :
      (shelf.session? who).isSome = (ledger.session? who).isSome := by
    rw [copied.session who, Option.isSome_map]
  constructor
  · intro selected
    obtain ⟨who, name, same, session⟩ := copied.tidy.mem_orgKeys selected
    exact ⟨who, name, same, counted who ▸ session⟩
  · intro row
    obtain ⟨who, rfl, same, session⟩ := row
    exact (shelf.session_mem_orgKeys who org).mpr ⟨same, (counted who).symm ▸ session⟩

/-- As many names are selected for an org as it has rows that count. -/
theorem Copied.length_orgKeys (copied : ledger.Copied shelf) (org : Id) :
    (shelf.orgKeys org).length = (ledger.revokeOrg org).1 := by
  -- A row is counted if it is a session of the org.
  have counted (who : Identity) :
      who ∈ ledger.sessions.filter (fun who row => who.org = org && row.counts ledger.now) ↔
        who.org = org ∧ (ledger.session? who).isSome := by
    rw [← Std.ExtTreeMap.isSome_getElem?_iff_mem, Std.ExtTreeMap.getElem?_filter', session?]
    cases ledger.sessions[who]? with
    | none => simp
    | some row => by_cases same : who.org = org <;> simp [same, Option.filter]
  -- Names and identities are told apart alike, so both lists have each of their members once.
  have same : (shelf.orgKeys org).Perm
      ((ledger.sessions.filter fun who row =>
        who.org = org && row.counts ledger.now).keys.map Key.session) := by
    rw [List.perm_ext_iff_of_nodup (shelf.nodup_orgKeys org)
      (List.pairwise_map.mpr (Std.ExtTreeMap.nodup_keys.imp fun different same =>
        different (Key.session_injective same)))]
    intro key
    simp only [List.mem_map, Std.ExtTreeMap.mem_keys, copied.mem_orgKeys, counted]
    constructor
    · intro named
      obtain ⟨who, name, inOrg, session⟩ := named
      exact ⟨who, ⟨inOrg, session⟩, name.symm⟩
    · intro row
      obtain ⟨who, ⟨inOrg, session⟩, name⟩ := row
      exact ⟨who, name.symm, inOrg, session⟩
  rw [revokeOrg, same.length_eq, List.length_map, Std.ExtTreeMap.length_keys]

/-- Revoking an org keeps cache and ledger copies of each other. -/
theorem Copied.revokeOrg (copied : ledger.Copied shelf) (org : Id) :
    (ledger.revokeOrg org).2.Copied (shelf.delete (shelf.orgKeys org)) where
  sound := copied.sound
  now := copied.now
  horizon := copied.horizon
  tidy := copied.tidy.delete _
  session := by
    intro who
    -- All rows of the org are struck, those that no longer count with them.
    have left : (ledger.revokeOrg org).2.session? who =
        if who.org = org then none else ledger.session? who := by
      simp only [session?, Ledger.revokeOrg, Std.ExtTreeMap.getElem?_filter']
      cases ledger.sessions[who]? with
      | none => simp
      | some row => by_cases same : who.org = org <;> simp [same]
    rw [Punctual.session?_delete_orgKeys, left, copied.session who]
    by_cases same : who.org = org
    · simp [same]
    · simp [same]
  binding := by
    intro apiToken
    rw [Punctual.binding?_delete_orgKeys]
    exact copied.binding apiToken

/-- A row that counts at a later instant counts now. -/
theorem filter_counts_later {α : Type} {now later : Instant} (forward : now ≤ later)
    (row? : Option (Dated α)) :
    (row?.filter (·.counts now)).filter (·.counts later) = row?.filter (·.counts later) := by
  cases row? with
  | none => rfl
  | some row =>
    -- A deadline that is still to come later is still to come now.
    have lasting : row.counts later = true → row.counts now = true := by
      cases deadline : row.deadline with
      | none => simp [Dated.counts, deadline]
      | some limit =>
        simp only [Dated.counts, deadline, Option.any_some, Bool.not_eq_true',
          decide_eq_false_iff_not]
        intro ahead come
        exact ahead (Nat.le_trans come forward)
    cases counted : row.counts later with
    | true => simp [Option.filter, counted, lasting counted]
    | false => by_cases now : row.counts now <;> simp [Option.filter, counted, now]

/-- The cache at a later instant is the copy of the ledger at this instant. -/
theorem Copied.reach (copied : ledger.Copied shelf) {later : Instant}
    (forward : shelf.now ≤ later) :
    Copied { ledger with now := later } (shelf.reach later) where
  sound := copied.sound
  now := rfl
  horizon := copied.horizon
  tidy := copied.tidy.reach later
  session := by
    intro who
    -- An entry lapses when its row stops to count.
    have counting : (fun entry => !Entry.hasLapsed entry later) ∘ sessionEntry who =
        fun row : Dated Tokens => row.counts later := rfl
    rw [Punctual.session?, Punctual.getElem?_reach]
    show (shelf.session? who).filter _ = _
    rw [copied.session who, Option.filter_map, counting, session?, copied.now,
      filter_counts_later forward]
    rfl
  binding := by
    intro apiToken
    have counting : (fun entry => !Entry.hasLapsed entry later) ∘ bindingEntry =
        fun row : Dated Identity => row.counts later := rfl
    rw [Punctual.binding?, Punctual.getElem?_reach]
    show (shelf.binding? apiToken).filter _ = _
    rw [copied.binding apiToken, Option.filter_map, counting, binding?, copied.now,
      filter_counts_later forward]
    rfl

/-- Time passes alike in cache and ledger. -/
theorem Copied.pass (copied : ledger.Copied shelf) (span : Lifetime) :
    Option.Rel Copied (Desk.pass? ledger span) (shelf.advance? span) := by
  have same : ledger.now + span.nanos = shelf.now + span.nanos := by rw [copied.now]
  simp only [Desk.pass?, Punctual.advance?, same]
  -- Both clocks stand at one instant and end at one instant.
  by_cases named : shelf.now + span.nanos ≤ Instant.horizon
  · rw [if_pos named, if_pos named]
    exact .some (copied.reach (Nat.le_add_right _ _))
  · rw [if_neg named, if_neg named]
    exact .none

/-- How long bindings are to live does not matter for what is copied. -/
theorem Copied.reopen (copied : ledger.Copied shelf) (bindingLife : Option Lifetime) :
    (Desk.reopen ledger bindingLife).Copied shelf where
  sound := copied.sound
  now := copied.now
  horizon := copied.horizon
  tidy := copied.tidy
  session := copied.session
  binding := copied.binding

end Ledger

end TenantSessions
