import TenantSessions.Proofs.Cache.Link
import TenantSessions.Proofs.Session.Check

/-!
What a check makes of the replies of a server that may say anything, as others may write between two
commands. Each reply is read by itself; of all the ways in which a check can end there is one in
which the token is accepted, and there each reply speaks for it.
-/

namespace TenantSessions

/-- The ways in which confirming a token ends, by the replies to its commands: what it answers, and
what it has sent. -/
inductive Confirmation (who : Identity) (field presented : String) (first second : Reply) :
    Except Failure Unit → List (List String) → Prop where
  /-- There is no telling whether there is a session. -/
  | unchecked {fault : Fault}
      (heard : (Command.present (Key.session who)).hear first = .error fault) :
      Confirmation who field presented first second (.error (.cache (.checkingSession who) fault))
        [["EXISTS", Key.session who]]
  /-- There is no session. -/
  | absent (heard : (Command.present (Key.session who)).hear first = .ok false) :
      Confirmation who field presented first second (.error .invalidSession)
        [["EXISTS", Key.session who]]
  /-- There is no telling which token the session holds. -/
  | unread {fault : Fault} (there : (Command.present (Key.session who)).hear first = .ok true)
      (heard : (Command.read (Key.session who) field).hear second = .error fault) :
      Confirmation who field presented first second (.error (.cache (.readingSession who) fault))
        [["EXISTS", Key.session who], ["HGET", Key.session who, field]]
  /-- The session holds no token or another one. -/
  | differing {stored : Option String}
      (there : (Command.present (Key.session who)).hear first = .ok true)
      (heard : (Command.read (Key.session who) field).hear second = .ok stored)
      (differs : stored ≠ some presented) :
      Confirmation who field presented first second (.error .invalidSession)
        [["EXISTS", Key.session who], ["HGET", Key.session who, field]]
  /-- The session holds the token. -/
  | confirmed (there : (Command.present (Key.session who)).hear first = .ok true)
      (heard : (Command.read (Key.session who) field).hear second = .ok (some presented)) :
      Confirmation who field presented first second (.ok ())
        [["EXISTS", Key.session who], ["HGET", Key.session who, field]]

/-- The ways in which checking a bearer token ends. -/
inductive BearerCheck (who : Identity) (bearer : String) (first second : Reply) :
    Except Failure Unit → List (List String) → Prop where
  | orgMissing (org : who.org = 0) :
      BearerCheck who bearer first second (.error .missingOrg) []
  | userMissing (org : who.org ≠ 0) (user : who.user = 0) :
      BearerCheck who bearer first second (.error .missingUser) []
  | tokenMissing (org : who.org ≠ 0) (user : who.user ≠ 0) (empty : bearer = "") :
      BearerCheck who bearer first second (.error .missingCredential) []
  | checked {answer : Except Failure Unit} {words : List (List String)}
      (org : who.org ≠ 0) (user : who.user ≠ 0) (filled : bearer ≠ "")
      (confirmation : Confirmation who Record.bearer bearer first second answer words) :
      BearerCheck who bearer first second answer words

/-- The ways in which resolving an API token ends. -/
inductive Resolution (apiToken : String) (first second third : Reply) :
    Except Failure Identity → List (List String) → Prop where
  | tokenMissing (empty : apiToken = "") :
      Resolution apiToken first second third (.error .missingCredential) []
  /-- There is no telling to whom the token is bound. -/
  | unread {fault : Fault} (filled : apiToken ≠ "")
      (heard : (Command.readAll (Key.apiToken apiToken)).hear first = .error fault) :
      Resolution apiToken first second third (.error (.cache .readingBinding fault))
        [["HGETALL", Key.apiToken apiToken]]
  /-- The token is bound to nobody. -/
  | unbound (filled : apiToken ≠ "")
      (heard : (Command.readAll (Key.apiToken apiToken)).hear first = .ok ∅) :
      Resolution apiToken first second third (.error .invalidSession)
        [["HGETALL", Key.apiToken apiToken]]
  | orgMalformed {fields : Fields} (filled : apiToken ≠ "")
      (heard : (Command.readAll (Key.apiToken apiToken)).hear first = .ok fields)
      (bound : fields ≠ ∅) (unnamed : ∀ org, ¬ fields.Names Record.org org) :
      Resolution apiToken first second third (.error (.malformed Record.bindingName Record.org))
        [["HGETALL", Key.apiToken apiToken]]
  | userMalformed {fields : Fields} {org : Id} (filled : apiToken ≠ "")
      (heard : (Command.readAll (Key.apiToken apiToken)).hear first = .ok fields)
      (named : fields.Names Record.org org) (unnamed : ∀ user, ¬ fields.Names Record.user user) :
      Resolution apiToken first second third (.error (.malformed Record.bindingName Record.user))
        [["HGETALL", Key.apiToken apiToken]]
  /-- The session of the identity that the binding names has the last word. -/
  | followed {fields : Fields} {who : Identity} {answer : Except Failure Unit}
      {words : List (List String)} (filled : apiToken ≠ "")
      (heard : (Command.readAll (Key.apiToken apiToken)).hear first = .ok fields)
      (org : fields.Names Record.org who.org) (user : fields.Names Record.user who.user)
      (confirmation : Confirmation who Record.apiToken apiToken second third answer words) :
      Resolution apiToken first second third (answer.map fun _ => who)
        (["HGETALL", Key.apiToken apiToken] :: words)

section

variable {who : Identity} {field presented bearer apiToken : String} {first second third : Reply}
  {words : List (List String)}

/-- A token is confirmed exactly if the first reply tells of a session and the second of the token.
-/
theorem Confirmation.eq_ok_iff {answer : Except Failure Unit}
    (confirmation : Confirmation who field presented first second answer words) :
    answer = .ok () ↔ (Command.present (Key.session who)).hear first = .ok true ∧
      (Command.read (Key.session who) field).hear second = .ok (some presented) := by
  -- The other ways each differ from this one in what they hear.
  cases confirmation with
  | unchecked heard => simp [heard]
  | absent heard => simp [heard]
  | unread there heard => simp [heard]
  | differing there heard differs => simp [heard, differs]
  | confirmed there heard => simp [there, heard]

/-- A bearer token is accepted exactly if nothing is missing and it is confirmed. -/
theorem BearerCheck.eq_ok_iff {answer : Except Failure Unit}
    (check : BearerCheck who bearer first second answer words) :
    answer = .ok () ↔ who.org ≠ 0 ∧ who.user ≠ 0 ∧ bearer ≠ "" ∧
      (Command.present (Key.session who)).hear first = .ok true ∧
      (Command.read (Key.session who) Record.bearer).hear second = .ok (some bearer) := by
  -- Whatever is missing is one of the conditions that are asked for.
  cases check with
  | orgMissing org => simp [org]
  | userMissing org user => simp [user]
  | tokenMissing org user empty => simp [empty]
  | checked org user filled confirmation =>
    rw [confirmation.eq_ok_iff]
    simp [org, user, filled]

/-- An API token is accepted for an identity exactly if its binding is heard to name this identity,
and it is confirmed for it. -/
theorem Resolution.eq_ok_iff {answer : Except Failure Identity}
    (resolution : Resolution apiToken first second third answer words) (who : Identity) :
    answer = .ok who ↔ apiToken ≠ "" ∧
      (∃ fields, (Command.readAll (Key.apiToken apiToken)).hear first = .ok fields ∧
        fields.Names Record.org who.org ∧ fields.Names Record.user who.user) ∧
      (Command.present (Key.session who)).hear second = .ok true ∧
      (Command.read (Key.session who) Record.apiToken).hear third = .ok (some apiToken) := by
  cases resolution with
  | tokenMissing empty => simp [empty]
  | unread filled heard => simp [heard]
  | unbound filled heard =>
    -- An identity that is named is named by some field.
    simp [heard, Fields.not_names_empty]
  | orgMalformed filled heard bound unnamed => simp [heard, unnamed]
  | userMalformed filled heard named unnamed => simp [heard, unnamed]
  | @followed fields owner answer words filled heard org user confirmation =>
    constructor
    -- The identity that is answered is the one that the binding names.
    · intro accepted
      cases answer with
      | error failure => cases accepted
      | ok =>
        cases accepted
        exact ⟨filled, ⟨fields, heard, org, user⟩, confirmation.eq_ok_iff.mp rfl⟩
    · intro accepted
      obtain ⟨-, ⟨others, heardAlso, otherOrg, otherUser⟩, confirmed⟩ := accepted
      -- The same fields name the same identity.
      rw [heard] at heardAlso
      cases heardAlso
      have same : owner = who := by
        cases who
        cases owner
        rw [Identity.mk.injEq]
        exact ⟨org.unique otherOrg, user.unique otherUser⟩
      subst same
      rw [confirmation.eq_ok_iff.mpr confirmed]
      rfl

end

namespace Link

variable {link : Link}

/-- Confirming a token ends in one of its ways, by the next two replies. -/
theorem hold_confirm (connected : link.outage = none) (who : Identity) (field : String)
    {presented : String} (filled : presented ≠ "") :
    ∃ words, Confirmation who field presented (link.reply 0) (link.reply 1)
        ((Session.confirm who field presented).hold link).1 words ∧
      ((Session.confirm who field presented).hold link).2.sentWords = link.sentWords ++ words := by
  have askable : (Command.present (Key.session who)).Sendable := trivial
  rw [Session.confirm, Dialogue.hold_bind]
  cases there : (Command.present (Key.session who)).hear (link.reply 0) with
  | error fault =>
    rw [hold_put_of_error connected askable there]
    exact ⟨_, .unchecked there, sentWords_after ..⟩
  | ok present =>
    rw [hold_put_of_ok connected askable there]
    cases present with
    | false => exact ⟨_, .absent there, sentWords_after ..⟩
    | true =>
      have readable : (Command.read (Key.session who) field).Sendable := trivial
      have still : (link.after (.present (Key.session who))).outage = none :=
        (after_outage ..).trans connected
      have sent : ((link.after (.present (Key.session who))).after
          (.read (Key.session who) field)).sentWords =
          link.sentWords ++ [["EXISTS", Key.session who], ["HGET", Key.session who, field]] := by
        simp [Command.words]
      -- The field is read over the link as the first command has left it.
      simp only [if_true]
      rw [Dialogue.hold_bind]
      cases heard : (Command.read (Key.session who) field).hear
          ((link.after (.present (Key.session who))).reply 0) with
      | error fault =>
        rw [hold_put_of_error still readable heard]
        rw [reply_after] at heard
        exact ⟨_, .unread there heard, sent⟩
      | ok stored =>
        rw [hold_put_of_ok still readable heard]
        rw [reply_after] at heard
        dsimp only
        by_cases agreed : Session.agrees stored presented = true
        · rw [if_pos agreed]
          have same := ((Session.agrees_iff ..).mp agreed).1
          exact ⟨_, .confirmed there (same ▸ heard), sent⟩
        · rw [if_neg agreed]
          -- As what is presented is not empty, only another token can disagree.
          have differs : stored ≠ some presented :=
            fun same => agreed ((Session.agrees_iff ..).mpr ⟨same, filled⟩)
          exact ⟨_, .differing there heard differs, sent⟩

/-- Checking a bearer token ends in one of its ways, by the next two replies. -/
theorem hold_checkBearer (connected : link.outage = none) (who : Identity) (bearer : String) :
    ∃ words, BearerCheck who bearer (link.reply 0) (link.reply 1)
        ((Session.checkBearer who bearer).hold link).1 words ∧
      ((Session.checkBearer who bearer).hold link).2.sentWords = link.sentWords ++ words := by
  have nothing : link.sentWords = link.sentWords ++ [] := (List.append_nil _).symm
  rw [Session.checkBearer, Dialogue.hold_bind, Dialogue.hold_ofExcept, Session.require]
  -- What is missing is looked for in the order in which it is reported.
  by_cases org : who.org = 0
  · rw [if_pos org]
    exact ⟨[], .orgMissing org, nothing⟩
  by_cases user : who.user = 0
  · rw [if_neg org, if_pos user]
    exact ⟨[], .userMissing org user, nothing⟩
  by_cases empty : bearer = ""
  · rw [if_neg org, if_neg user, if_pos ⟨empty, rfl⟩]
    exact ⟨[], .tokenMissing org user empty, nothing⟩
  · rw [if_neg org, if_neg user, if_neg (fun both => empty both.1)]
    obtain ⟨words, confirmation, sent⟩ := hold_confirm connected who Record.bearer empty
    exact ⟨words, .checked org user empty confirmation, sent⟩

/-- Resolving an API token ends in one of its ways, by the next three replies. -/
theorem hold_resolve (connected : link.outage = none) (apiToken : String) :
    ∃ words, Resolution apiToken (link.reply 0) (link.reply 1) (link.reply 2)
        ((Session.resolve apiToken).hold link).1 words ∧
      ((Session.resolve apiToken).hold link).2.sentWords = link.sentWords ++ words := by
  by_cases empty : apiToken = ""
  · rw [Session.resolve, if_pos empty]
    exact ⟨[], .tokenMissing empty, (List.append_nil _).symm⟩
  have askable : (Command.readAll (Key.apiToken apiToken)).Sendable := trivial
  have sent := sentWords_after link (.readAll (Key.apiToken apiToken))
  rw [Session.resolve, if_neg empty, Dialogue.hold_bind]
  cases heard : (Command.readAll (Key.apiToken apiToken)).hear (link.reply 0) with
  | error fault =>
    rw [hold_put_of_error connected askable heard]
    exact ⟨_, .unread empty heard, sent⟩
  | ok fields =>
    rw [hold_put_of_ok connected askable heard]
    dsimp only
    by_cases unbound : fields.isEmpty = true
    · rw [if_pos unbound]
      have nobody := Std.ExtTreeMap.isEmpty_iff.mp unbound
      exact ⟨_, .unbound empty (nobody ▸ heard), sent⟩
    rw [if_neg unbound, Dialogue.hold_bind, Dialogue.hold_ofExcept]
    have bound : fields ≠ ∅ := fun nobody => unbound (Std.ExtTreeMap.isEmpty_iff.mpr nobody)
    -- Nothing more is sent unless both numbers of the binding are read.
    rcases Identity.ofFields_cases fields with
      ⟨unnamed, read⟩ | ⟨org, named, unnamed, read⟩ | ⟨who, org, user, read⟩
    · rw [read]
      exact ⟨_, .orgMalformed empty heard bound unnamed, sent⟩
    · rw [read]
      exact ⟨_, .userMalformed empty heard named unnamed, sent⟩
    · have still : (link.after (.readAll (Key.apiToken apiToken))).outage = none :=
        (after_outage ..).trans connected
      obtain ⟨words, confirmation, more⟩ := hold_confirm still who Record.apiToken empty
      rw [reply_after, reply_after] at confirmation
      rw [sent, List.append_assoc] at more
      rw [read]
      dsimp only
      rw [Dialogue.hold_bind]
      -- The identity is answered where its session confirms the token, and what fails is passed on.
      cases held : (Session.confirm who Record.apiToken apiToken).hold
          (link.after (.readAll (Key.apiToken apiToken))) with
      | mk answer left =>
        rw [held] at confirmation more
        have followed := Resolution.followed empty heard org user confirmation
        cases answer with
        | ok => exact ⟨_, followed, more⟩
        | error failure => exact ⟨_, followed, more⟩

end Link

namespace Registrar

end Registrar

end TenantSessions
