import TenantSessions.Proofs.Session.Tables

/-!
A check leaves a punctual cache as it is and answers what can be read off it: a bearer token is good
for an identity whose session holds it, and an API token for the identity that its binding names and
whose session holds the token too.
-/

namespace TenantSessions

/-- A stored token agrees with the presented one exactly if it is that token, which is not empty. -/
theorem Session.agrees_iff (stored : Option String) (presented : String) :
    agrees stored presented = true ↔ stored = some presented ∧ presented ≠ "" := by
  cases stored with
  | none => simp [agrees]
  | some stored =>
    simp only [agrees, Bool.and_eq_true, bne_iff_ne, beq_iff_eq, Option.some.injEq]
    constructor
    · intro agreed
      obtain ⟨filled, same⟩ := agreed
      exact ⟨same, same ▸ filled⟩
    · intro agreed
      obtain ⟨same, filled⟩ := agreed
      exact ⟨same ▸ filled, same⟩

namespace Punctual

/-- Whether the session of an identity holds a presented token in a field. -/
def confirms (shelf : Punctual) (who : Identity) (field presented : String) : Bool :=
  (shelf.session? who).any fun entry => Session.agrees entry.fields[field]? presented

/-- A token is confirmed exactly if there is a session that holds it, and it is not empty. -/
theorem confirms_iff (shelf : Punctual) (who : Identity) (field presented : String) :
    shelf.confirms who field presented = true ↔
      ∃ entry, shelf.session? who = some entry ∧ entry.fields[field]? = some presented ∧
        presented ≠ "" := by
  -- An identity without a session has no field that could agree.
  simp only [confirms, Option.any_eq_true, Session.agrees_iff]

/-- What confirming a token answers. -/
def verdict (shelf : Punctual) (who : Identity) (field presented : String) : Except Failure Unit :=
  -- The field is not read where there is no session, so a failure to read it goes unnoticed there.
  if .present ∈ shelf.failing then .error (.cache (.checkingSession who) (.injected .present))
  else if (shelf.session? who).isNone then .error .invalidSession
  else if .read ∈ shelf.failing then .error (.cache (.readingSession who) (.injected .read))
  else if shelf.confirms who field presented then .ok ()
  else .error .invalidSession

/-- What checking a bearer token answers. -/
def bearerVerdict (shelf : Punctual) (who : Identity) (bearer : String) : Except Failure Unit := do
  Session.require who bearer ""
  shelf.verdict who Record.bearer bearer

/-- What resolving an API token answers. -/
def resolution (shelf : Punctual) (apiToken : String) : Except Failure Identity :=
  if apiToken = "" then .error .missingCredential
  else if .readAll ∈ shelf.failing then .error (.cache .readingBinding (.injected .readAll))
  else
    match shelf.binding? apiToken with
    | none => .error .invalidSession
    | some entry =>
      if entry.fields.isEmpty then .error .invalidSession
      else do
        let who ← Identity.ofFields entry.fields
        shelf.verdict who Record.apiToken apiToken
        return who

/-- Confirming a token answers its verdict and leaves the cache alone. -/
theorem hold_confirm (shelf : Punctual) (who : Identity) (field presented : String) :
    (Session.confirm who field presented).hold shelf =
      (shelf.verdict who field presented, shelf) := by
  have there : shelf.entries.contains (Key.session who) = (shelf.session? who).isSome :=
    Std.ExtTreeMap.contains_eq_isSome_getElem?
  -- First the key is asked for, and if it is there its field is read; neither changes anything.
  rw [Session.confirm, Dialogue.hold_bind, verdict]
  by_cases absent : Command.Kind.present ∈ shelf.failing
  · rw [if_pos absent, hold_put_of_failing absent]
    rfl
  have asked : (Dialogue.put (.present (Key.session who)) (.checkingSession who)).hold shelf =
      (.ok (shelf.entries.contains (Key.session who)), shelf) := hold_put_of_ok absent rfl _
  rw [if_neg absent, asked, there]
  cases found : shelf.session? who with
  | none => rfl
  | some entry =>
    simp only [Option.isSome_some, if_true, Option.isNone_some, Bool.false_eq_true, if_false]
    rw [Dialogue.hold_bind]
    by_cases unread : Command.Kind.read ∈ shelf.failing
    · rw [if_pos unread, hold_put_of_failing unread]
      rfl
    · have read : (Dialogue.put (.read (Key.session who) field) (.readingSession who)).hold shelf =
          (.ok ((shelf.session? who).bind fun entry => entry.fields[field]?), shelf) :=
        hold_put_of_ok unread rfl _
      rw [if_neg unread, read, confirms, found, Option.bind_some, Option.any_some]
      -- The token that was read decides.
      cases agreed : Session.agrees entry.fields[field]? presented with
      | true =>
        simp only [agreed, if_true]
        rfl
      | false =>
        simp only [agreed, Bool.false_eq_true, if_false]
        rfl

/-- Checking a bearer token answers its verdict and leaves the cache alone. -/
theorem hold_checkBearer (shelf : Punctual) (who : Identity) (bearer : String) :
    (Session.checkBearer who bearer).hold shelf = (shelf.bearerVerdict who bearer, shelf) := by
  -- A request that is incomplete is refused before the cache is asked.
  rw [Session.checkBearer, Dialogue.hold_bind, Dialogue.hold_ofExcept, bearerVerdict]
  cases Session.require who bearer "" with
  | error failure => rfl
  | ok => exact hold_confirm shelf who Record.bearer bearer

/-- Resolving an API token answers its resolution and leaves the cache alone. -/
theorem hold_resolve (shelf : Punctual) (apiToken : String) :
    (Session.resolve apiToken).hold shelf = (shelf.resolution apiToken, shelf) := by
  rw [Session.resolve, resolution]
  by_cases empty : apiToken = ""
  · simp only [if_pos empty]
    rfl
  simp only [if_neg empty]
  rw [Dialogue.hold_bind]
  by_cases unread : Command.Kind.readAll ∈ shelf.failing
  · rw [if_pos unread, hold_put_of_failing unread]
    rfl
  -- A binding that is missing reads as one without fields, and either is turned down.
  have read : (Dialogue.put (.readAll (Key.apiToken apiToken)) .readingBinding).hold shelf =
      (.ok ((shelf.binding? apiToken).elim ∅ Entry.fields), shelf) := hold_put_of_ok unread rfl _
  rw [if_neg unread, read]
  cases shelf.binding? apiToken with
  | none => rfl
  | some entry =>
    rw [Option.elim_some]
    by_cases blank : entry.fields.isEmpty
    · simp only [if_pos blank]
      rfl
    · simp only [if_neg blank]
      rw [Dialogue.hold_bind, Dialogue.hold_ofExcept]
      cases Identity.ofFields entry.fields with
      | error failure => rfl
      | ok who =>
        -- The binding only says whose session is to confirm the token.
        dsimp only
        rw [Dialogue.hold_bind, hold_confirm]
        show _ = (Except.bind (shelf.verdict who Record.apiToken apiToken) fun _ => .ok who, shelf)
        cases shelf.verdict who Record.apiToken apiToken <;> rfl

/-- A token gets a good verdict exactly if it is confirmed while both commands of the check are
performed. -/
theorem verdict_eq_ok_iff (shelf : Punctual) (who : Identity) (field presented : String) :
    shelf.verdict who field presented = .ok () ↔
      .present ∉ shelf.failing ∧ .read ∉ shelf.failing ∧
        shelf.confirms who field presented = true := by
  -- Each failure and a missing session stand in the way of a good verdict, and nothing else does.
  rw [verdict]
  by_cases absent : Command.Kind.present ∈ shelf.failing
  · simp [absent]
  cases found : shelf.session? who with
  | none => simp [absent, confirms, found]
  | some entry =>
    by_cases unread : Command.Kind.read ∈ shelf.failing
    · simp [absent, unread]
    · simp [absent, unread]

/-- A verdict is good, or turns the token down, or reports a command that is made to fail. -/
theorem verdict_cases (shelf : Punctual) (who : Identity) (field presented : String) :
    shelf.verdict who field presented = .ok () ∨
      shelf.verdict who field presented = .error .invalidSession ∨
      ∃ stage, ∃ kind ∈ shelf.failing,
        shelf.verdict who field presented = .error (.cache stage (.injected kind)) := by
  unfold verdict
  split
  · rename_i absent
    exact .inr (.inr ⟨_, _, absent, rfl⟩)
  · split
    · exact .inr (.inl rfl)
    · split
      · rename_i unread
        exact .inr (.inr ⟨_, _, unread, rfl⟩)
      · split
        · exact .inl rfl
        · exact .inr (.inl rfl)

/-- A verdict is read off the session of the identity. -/
theorem verdict_congr {shelf left : Punctual} {who : Identity}
    (failing : left.failing = shelf.failing) (session : left.session? who = shelf.session? who)
    (field presented : String) :
    left.verdict who field presented = shelf.verdict who field presented := by
  rw [verdict, verdict, confirms, confirms, failing, session]

/-- What checking a bearer token answers is read off the session of the identity. -/
theorem bearerVerdict_congr {shelf left : Punctual} {who : Identity}
    (failing : left.failing = shelf.failing) (session : left.session? who = shelf.session? who)
    (bearer : String) : left.bearerVerdict who bearer = shelf.bearerVerdict who bearer := by
  rw [bearerVerdict, bearerVerdict, verdict_congr failing session]

/-- Where nothing fails, a verdict is good exactly if the token is confirmed. -/
theorem verdict_of_sound {shelf : Punctual} (sound : shelf.failing = []) (who : Identity)
    (field presented : String) :
    shelf.verdict who field presented =
      if shelf.confirms who field presented then .ok () else .error .invalidSession := by
  -- Without a session nothing is confirmed, so that case need not be told apart.
  rw [verdict, sound]
  cases found : shelf.session? who with
  | none => simp [confirms, found]
  | some entry => simp

/-- A bearer token is good exactly if the identity is named in full and its session confirms the
token while both commands of the check are performed. -/
theorem bearerVerdict_eq_ok_iff (shelf : Punctual) (who : Identity) (bearer : String) :
    shelf.bearerVerdict who bearer = .ok () ↔
      who.org ≠ 0 ∧ who.user ≠ 0 ∧ .present ∉ shelf.failing ∧ .read ∉ shelf.failing ∧
        shelf.confirms who Record.bearer bearer = true := by
  rw [bearerVerdict, Session.require]
  -- An identity that is not named in full is refused whatever its session holds.
  by_cases org : who.org = 0
  · simp [org, Bind.bind, Except.bind]
  by_cases user : who.user = 0
  · simp [org, user, Bind.bind, Except.bind]
  by_cases empty : bearer = ""
  · -- An empty token is never confirmed.
    simp [org, user, empty, Bind.bind, Except.bind, confirms_iff]
  · simp [org, user, empty, Bind.bind, Except.bind, verdict_eq_ok_iff]

/-- The identity that the binding of an API token names, if there is a binding that names one. -/
def owner? (shelf : Punctual) (apiToken : String) : Option Identity :=
  (shelf.binding? apiToken).bind fun entry => (Identity.ofFields entry.fields).toOption

/-- A resolution is read off the binding of the token and the session of the identity that it names.
-/
theorem resolution_congr {shelf left : Punctual} {apiToken : String}
    (failing : left.failing = shelf.failing)
    (binding : left.binding? apiToken = shelf.binding? apiToken)
    (session : ∀ who, shelf.owner? apiToken = some who → left.session? who = shelf.session? who) :
    left.resolution apiToken = shelf.resolution apiToken := by
  rw [resolution, resolution, failing, binding]
  cases found : shelf.binding? apiToken with
  | none => rfl
  | some entry =>
    dsimp only
    cases named : Identity.ofFields entry.fields with
    | error failure => rfl
    | ok who =>
      have owned : shelf.owner? apiToken = some who := by
        rw [owner?, found, Option.bind_some, named]
        rfl
      simp only [Bind.bind, Except.bind, verdict_congr failing (session who owned)]

/-- An API token that is bound to an identity resolves to it by the verdict on the token, unless the
binding is not read. -/
theorem resolution_of_owner {shelf : Punctual} {apiToken : String} (filled : apiToken ≠ "")
    {who : Identity} (owned : shelf.owner? apiToken = some who) :
    shelf.resolution apiToken =
      if .readAll ∈ shelf.failing then .error (.cache .readingBinding (.injected .readAll))
      else (shelf.verdict who Record.apiToken apiToken).map fun _ => who := by
  obtain ⟨entry, found, read⟩ := Option.bind_eq_some_iff.mp owned
  cases named : Identity.ofFields entry.fields with
  | error failure =>
    rw [named] at read
    cases read
  | ok owner =>
    rw [named] at read
    cases read
    -- Fields that name an identity are not empty.
    have full : entry.fields.isEmpty = false := by
      rw [Std.ExtTreeMap.isEmpty_eq_false_iff]
      intro empty
      rw [empty] at named
      cases named
    simp only [resolution, if_neg filled, found, full, Bool.false_eq_true, if_false, named,
      Bind.bind, Except.bind]
    cases shelf.verdict who Record.apiToken apiToken <;> rfl

/-- An API token resolves to an identity exactly if its binding names this identity and its session
confirms the token while the three commands are performed. -/
theorem resolution_eq_ok_iff (shelf : Punctual) (apiToken : String) (who : Identity) :
    shelf.resolution apiToken = .ok who ↔
      .readAll ∉ shelf.failing ∧ .present ∉ shelf.failing ∧ .read ∉ shelf.failing ∧
        shelf.owner? apiToken = some who ∧
        shelf.confirms who Record.apiToken apiToken = true := by
  rw [resolution]
  -- An empty token is refused, and no session would confirm it either.
  by_cases empty : apiToken = ""
  · simp [empty, confirms_iff]
  by_cases unread : Command.Kind.readAll ∈ shelf.failing
  · simp [empty, unread]
  simp only [empty, unread, if_false, owner?]
  cases found : shelf.binding? apiToken with
  | none => simp
  | some entry =>
    by_cases blank : entry.fields.isEmpty
    · -- Fields that are empty name no identity.
      have nobody : Identity.ofFields entry.fields =
          .error (.malformed Record.bindingName Record.org) := by
        rw [Std.ExtTreeMap.isEmpty_iff.mp blank]
        rfl
      simp [blank, nobody, Except.toOption]
    · simp only [if_neg blank, Option.bind_some]
      cases named : Identity.ofFields entry.fields with
      | error failure => simp [Bind.bind, Except.bind, Except.toOption]
      | ok owner =>
        -- The verdict on the owner decides, and it is the owner who is answered.
        have answered : (do
            shelf.verdict owner Record.apiToken apiToken
            return owner : Except Failure Identity) = .ok who ↔
              shelf.verdict owner Record.apiToken apiToken = .ok () ∧ owner = who := by
          cases shelf.verdict owner Record.apiToken apiToken with
          | error failure => simp [Bind.bind, Except.bind]
          | ok => simp [Bind.bind, Except.bind, Pure.pure, Except.pure]
        refine answered.trans ?_
        rw [verdict_eq_ok_iff]
        simp only [Except.toOption, Option.some.injEq]
        constructor
        · intro good
          obtain ⟨⟨present, read, confirmed⟩, same⟩ := good
          subst same
          exact ⟨not_false, present, read, rfl, confirmed⟩
        · intro good
          obtain ⟨-, present, read, same, confirmed⟩ := good
          subst same
          exact ⟨⟨present, read, confirmed⟩, rfl⟩

end Punctual

end TenantSessions
