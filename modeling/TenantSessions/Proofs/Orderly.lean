import TenantSessions.Proofs.Provenance

/-!
What is kept under a name is what the name says: under the name of a session the session of its
identity, with a token at least, and under the name of a binding an identity that is named in full.
So a binding that is found can always be read.
-/

namespace TenantSessions

namespace Fields

/-- Whether fields are those of an identity's session: the two that name the identity, one token or
both, neither of them empty, and no other. -/
structure IsSession (fields : Fields) (who : Identity) : Prop where
  org : fields[Record.org]? = some (Decimal.write who.org)
  user : fields[Record.user]? = some (Decimal.write who.user)
  bearer : fields[Record.bearer]? ≠ some ""
  apiToken : fields[Record.apiToken]? ≠ some ""
  credential : fields[Record.bearer]?.isSome ∨ fields[Record.apiToken]?.isSome
  others : ∀ name, name ∉ [Record.org, Record.user, Record.bearer, Record.apiToken] →
    fields[name]? = none

/-- Whether fields are those of a binding to an identity: the two that name it, and no other. -/
structure IsBinding (fields : Fields) (who : Identity) : Prop where
  org : fields[Record.org]? = some (Decimal.write who.org)
  user : fields[Record.user]? = some (Decimal.write who.user)
  others : ∀ name, name ∉ [Record.org, Record.user] → fields[name]? = none

variable {row? : Option Entry} {who : Identity} {bearer apiToken : String}

/-- Writing a grant with a token over the session of its identity, or over nothing, gives a session
of this identity. -/
theorem isSession_write (earlier : ∀ entry, row? = some entry → entry.fields.IsSession who)
    (presented : ¬ (bearer = "" ∧ apiToken = "")) :
    ((row?.getD .blank).fields.write
      (Grant.ofTokens who bearer apiToken).fields).IsSession who := by
  generalize old : (row?.getD .blank).fields = fields
  -- Of what is written over, only the tokens can stay, and they are not empty.
  have unwritten : fields[Record.bearer]? ≠ some "" ∧ fields[Record.apiToken]? ≠ some "" ∧
      ∀ name, name ∉ [Record.org, Record.user, Record.bearer, Record.apiToken] →
        fields[name]? = none := by
    subst old
    cases row? with
    | none => simp [Entry.blank]
    | some entry =>
      have kept := earlier entry rfl
      exact ⟨kept.bearer, kept.apiToken, kept.others⟩
  obtain ⟨oldBearer, oldApiToken, oldOthers⟩ := unwritten
  have bearerIs := getElem?_write_held fields (.ofTokens who bearer apiToken) Record.bearer
  rw [Grant.held_bearer, Grant.ofTokens] at bearerIs
  have apiTokenIs := getElem?_write_held fields (.ofTokens who bearer apiToken) Record.apiToken
  rw [Grant.held_apiToken, Grant.ofTokens] at apiTokenIs
  constructor
  · simp [getElem?_write_grant, Grant.ofTokens, Record.org, Record.user, Record.bearer,
      Record.apiToken]
  · simp [getElem?_write_grant, Grant.ofTokens, Record.user, Record.bearer, Record.apiToken]
  · rw [Grant.ofTokens, bearerIs]
    exact Grant.token?_or_ne_empty bearer oldBearer
  · rw [Grant.ofTokens, apiTokenIs]
    exact Grant.token?_or_ne_empty apiToken oldApiToken
  · rw [Grant.ofTokens, bearerIs, apiTokenIs]
    by_cases empty : bearer = ""
    · exact .inr (Grant.isSome_token?_or (fun both => presented ⟨empty, both⟩) _)
    · exact .inl (Grant.isSome_token?_or empty _)
  · intro name other
    rw [getElem?_write_grant]
    simp only [List.mem_cons, List.not_mem_nil, or_false, not_or] at other
    obtain ⟨org, user, bearer, apiToken⟩ := other
    rw [if_neg apiToken, if_neg bearer, if_neg user, if_neg org]
    exact oldOthers name (by simp [org, user, bearer, apiToken])

/-- Writing an identity over the binding of another, or over nothing, gives its binding. -/
theorem isBinding_write
    (earlier : ∀ entry, row? = some entry → ∃ owner, entry.fields.IsBinding owner) :
    ((row?.getD .blank).fields.write who.fields).IsBinding who := by
  constructor
  · rw [getElem?_write_identity, if_neg (by decide), if_pos rfl]
  · rw [getElem?_write_identity, if_pos rfl]
  · intro name other
    have outside : name ≠ Record.org ∧ name ≠ Record.user := by simpa using other
    rw [getElem?_write_identity, if_neg outside.2, if_neg outside.1]
    -- Whoever was named before was named by the same two fields.
    cases row? with
    | none => simp [Entry.blank]
    | some entry =>
      obtain ⟨owner, kept⟩ := earlier entry rfl
      exact kept.others name other

/-- A binding names its identity. -/
theorem IsBinding.ofFields {fields : Fields} (kept : fields.IsBinding who) :
    Identity.ofFields fields = .ok who :=
  Identity.ofFields_of_named kept.org kept.user

end Fields

/-- Whether fields are what the name says under which they are kept. -/
inductive Filed : String → Fields → Prop where
  | session {who : Identity} {fields : Fields} (org : who.org ≠ 0) (user : who.user ≠ 0)
      (kept : fields.IsSession who) : Filed (Key.session who) fields
  | binding {apiToken : String} {who : Identity} {fields : Fields} (filled : apiToken ≠ "")
      (org : who.org ≠ 0) (user : who.user ≠ 0) (kept : fields.IsBinding who) :
      Filed (Key.apiToken apiToken) fields

namespace Filed

variable {fields : Fields} {key : String}

/-- What is filed under the name of a session is a session of its identity. -/
theorem isSession {who : Identity} (filed : Filed (Key.session who) fields) :
    fields.IsSession who := by
  generalize named : Key.session who = key at filed
  cases filed with
  | session _ _ kept => rwa [Key.session_injective named]
  | binding => exact absurd named (Key.session_ne_apiToken _ _)

/-- What is filed under the name of a binding is a binding to somebody. -/
theorem isBinding {apiToken : String} (filed : Filed (Key.apiToken apiToken) fields) :
    ∃ who, fields.IsBinding who := by
  generalize named : Key.apiToken apiToken = key at filed
  cases filed with
  | session => exact absurd named (Key.apiToken_ne_session _ _)
  | binding _ _ _ kept => exact ⟨_, kept⟩

/-- Whatever is filed has the name of a session or of a binding. -/
theorem isName (filed : Filed key fields) : Key.IsName key := by
  cases filed with
  | session => exact Key.isName_session _
  | binding => exact Key.isName_apiToken _

end Filed

namespace Punctual

/-- Whether everything that is kept is what its name says. -/
def Orderly (shelf : Punctual) : Prop :=
  ∀ (key : String) (entry : Entry), shelf.entries[key]? = some entry → Filed key entry.fields

namespace Orderly

variable {shelf left : Punctual}

/-- Nothing but sessions and bindings is kept in an orderly cache. -/
theorem tidy (orderly : shelf.Orderly) : shelf.Tidy := by
  intro key there
  obtain ⟨entry, found⟩ := Option.isSome_iff_exists.mp there
  exact (orderly key entry found).isName

/-- A creation leaves an orderly cache orderly, however far it comes. -/
theorem create {who : Identity} {bearer apiToken : String} {bindingLife life : Lifetime}
    {answer : Except Failure Unit} (orderly : shelf.Orderly)
    (ended : Creation shelf who bearer apiToken bindingLife life answer left) :
    left.Orderly := by
  intro key entry found
  -- The key is that of the session, that of the binding, or none of these two.
  by_cases kept : key = Key.session who
  · subst kept
    rcases ended.session?_own found with earlier | ⟨accepted, fields⟩
    · exact orderly _ entry earlier
    · obtain ⟨org, user⟩ := Session.named_of_accepted accepted
      rw [fields]
      exact .session org user (Fields.isSession_write
        (fun old there => (orderly _ old there).isSession) (Session.presented_of_accepted accepted))
  by_cases bound : key = Key.apiToken apiToken
  · subst bound
    rcases ended.binding?_own found with earlier | ⟨filled, accepted, fields⟩
    · exact orderly _ entry earlier
    · obtain ⟨org, user⟩ := Session.named_of_accepted accepted
      rw [fields]
      exact .binding filled org user (Fields.isBinding_write
        fun old there => (orderly _ old there).isBinding)
  · rw [ended.frame kept fun _ => bound] at found
    exact orderly key entry found

/-- An incident leaves an orderly cache orderly. -/
theorem undergo? {before after : Registrar Memory} {incident : Incident}
    (orderly : before.shelf.Orderly) (undergone : before.undergo? incident = some after) :
    after.shelf.Orderly := by
  by_cases others : ∀ who, ¬ incident.Creates who
  · intro key entry found
    exact orderly key entry (Incident.entries_subset undergone others key entry found)
  -- Only a creation can add what was not there.
  · obtain ⟨who, creates⟩ := Classical.not_forall_not.mp others
    obtain ⟨bearer, apiToken, life, rfl⟩ := Incident.eq_create creates
    cases undergone
    exact orderly.create (before.creation who bearer apiToken life)

/-- Where the cache is orderly, the binding of a token is missing or names an identity. -/
theorem owner?_isSome (orderly : shelf.Orderly) (apiToken : String) :
    shelf.binding? apiToken = none ∨ ∃ who, shelf.owner? apiToken = some who := by
  cases found : shelf.binding? apiToken with
  | none => exact .inl rfl
  | some entry =>
    obtain ⟨who, kept⟩ := (orderly _ entry found).isBinding
    refine .inr ⟨who, ?_⟩
    rw [owner?, found, Option.bind_some, kept.ofFields]
    rfl

/-- Where the cache is orderly, no API token is found to be bound by a record that cannot be read.
-/
theorem resolution_ne_malformed (orderly : shelf.Orderly) (apiToken record field : String) :
    shelf.resolution apiToken ≠ .error (.malformed record field) := by
  intro malformed
  rcases orderly.owner?_isSome apiToken with missing | ⟨who, owned⟩
  · rw [resolution, missing] at malformed
    split at malformed
    · cases malformed
    · split at malformed <;> cases malformed
  by_cases empty : apiToken = ""
  · rw [resolution, if_pos empty] at malformed
    cases malformed
  rw [resolution_of_owner empty owned] at malformed
  split at malformed
  · cases malformed
  -- The verdict on a session reads no number at all.
  · rcases shelf.verdict_cases who Record.apiToken apiToken with good | refused | ⟨_, _, _, failed⟩
    · rw [good] at malformed
      cases malformed
    · rw [refused] at malformed
      cases malformed
    · rw [failed] at malformed
      cases malformed

end Orderly

end Punctual

/-- All along a chronicle the cache is orderly. -/
theorem Chronicle.orderly {bindingLife : Option Lifetime} {past : List Moment}
    {registrar : Registrar Memory} (chronicle : Chronicle bindingLife past registrar) :
    registrar.shelf.Orderly := by
  -- A new cache keeps nothing, and no incident brings anything else in.
  induction chronicle with
  | start =>
    intro key entry found
    have nothing : (Registrar.new Memory.empty bindingLife).shelf.entries[key]? = none := by
      simp [Registrar.shelf, Registrar.new, Memory.punctual, Memory.getElem?_live, Memory.empty]
    rw [nothing] at found
    cases found
  | step _ undergone orderly => exact orderly.undergo? undergone

/-- Whatever has happened, every key that is live is the name of a session or of a binding, and has
just the fields that this name asks for; so no API token is answered by a record that cannot be
read, whatever is made to fail. -/
theorem everything_filed {bindingLife : Option Lifetime} {past : List Moment}
    {registrar : Registrar Memory} (chronicle : Chronicle bindingLife past registrar) :
    (∀ (key : String) (entry : Entry), registrar.cache.live[key]? = some entry →
      Filed key entry.fields) ∧
    ∀ apiToken record field,
      (registrar.serve (.resolve apiToken)).1 ≠ .error (.malformed record field) := by
  refine ⟨chronicle.orderly, fun apiToken record field => ?_⟩
  rw [(registrar.serve_resolve apiToken).1]
  exact chronicle.orderly.resolution_ne_malformed apiToken record field

/-- Somebody takes over an API token by a creation that fails half-way: the binding has the new name
and is filed as it should be, although no session holds the token for it. -/
theorem everything_filed_takenOver :
    ∃ past registrar, Chronicle none past registrar ∧ past.length = 4 ∧
      (∃ entry, registrar.cache.live[Key.apiToken "api"]? = some entry ∧
        entry.fields[Record.org]? = some "-8" ∧ Filed (Key.apiToken "api") entry.fields) ∧
      (registrar.serve (.resolve "api")).1 = .error .invalidSession ∧
      (registrar.serve (.resolve "api")).1 ≠
        .error (.malformed Record.bindingName Record.org) := by
  have chronicle := Chronicle.step (.step (.step (.step (.start : Chronicle none _ _)
    (rfl : Registrar.undergo? _
      (.event (.serve (.create ⟨7, 42⟩ "jwt" "api" (.ofSeconds 3600)))) = some _))
    (rfl : Registrar.undergo? _ (.fail .expire) = some _))
    (rfl : Registrar.undergo? _
      (.event (.serve (.create ⟨-8, 43⟩ "" "api" (.ofSeconds 3600)))) = some _))
    (rfl : Registrar.undergo? _ .heal = some _)
  obtain ⟨filed, readable⟩ := everything_filed chronicle
  refine ⟨_, _, chronicle, rfl, ?_, rfl, readable _ _ _⟩
  -- The entry is the one that is kept, as its deadline is still to come.
  have live := fun memory : Memory => memory.getElem?_live (Key.apiToken "api")
  exact ⟨_, (live _).trans rfl, rfl, filed _ _ ((live _).trans rfl)⟩

end TenantSessions
