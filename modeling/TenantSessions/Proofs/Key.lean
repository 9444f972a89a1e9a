import TenantSessions.Key
import TenantSessions.Proofs.Decimal
import TenantSessions.Proofs.Glob

/-! Names in the cache are unambiguous: a name tells the identity or the token that it was made for,
and the pattern of an org selects the sessions of that org alone. -/

namespace TenantSessions.Key

/-- A text before the first colon is told apart from what follows. -/
theorem append_colon_inj {first second before after : List Char} (firstFree : ':' ∉ first)
    (secondFree : ':' ∉ second) (same : first ++ ':' :: before = second ++ ':' :: after) :
    first = second ∧ before = after := by
  -- Both texts are what their common continuation holds before its first colon.
  have cut : ∀ text rest : List Char, ':' ∉ text →
      (text ++ ':' :: rest).takeWhile (· ≠ ':') = text := by
    intro text rest free
    rw [List.takeWhile_append_of_pos]
    · simp
    · intro c member
      simpa using fun colon : c = ':' => free (colon ▸ member)
  have heads : first = second := by
    rw [← cut first before firstFree, same, cut second after secondFree]
  -- The same opening can be taken away from both texts.
  subst heads
  exact ⟨rfl, by simpa using same⟩

/-- A written number holds no colon. -/
theorem colon_notMem_write (value : Id) : ':' ∉ (Decimal.write value).toList := by
  intro member
  -- A number holds digits and a sign, and a colon is neither.
  rcases Decimal.mem_write member with digit | minus
  · simp at digit
  · cases minus

/-- The characters of an org's mark. -/
theorem toList_orgMark (org : Id) :
    (orgMark org).toList =
      "session:org:".toList ++ ((Decimal.write org).toList ++ ':' :: "user:".toList) := by
  simp [orgMark]

/-- The characters of a session's name. -/
theorem toList_session (who : Identity) :
    (session who).toList = "session:org:".toList ++ ((Decimal.write who.org).toList ++
      ':' :: ("user:".toList ++ (Decimal.write who.user).toList)) := by
  simp [session, orgMark]

/-- The name of a session tells its identity. -/
theorem session_injective {first second : Identity} (same : session first = session second) :
    first = second := by
  have texts := congrArg String.toList same
  rw [toList_session, toList_session] at texts
  -- The org ends at the first colon behind the mark, and the user is all that is left.
  obtain ⟨orgs, users⟩ := append_colon_inj (colon_notMem_write _) (colon_notMem_write _)
    (List.append_cancel_left texts)
  have users := List.append_cancel_left users
  have sameOrg := Decimal.write_injective (String.toList_injective orgs)
  have sameUser := Decimal.write_injective (String.toList_injective users)
  cases first
  cases second
  cases sameOrg
  cases sameUser
  rfl

/-- Two names of sessions are equal exactly if they name one identity. -/
@[simp] theorem session_inj {first second : Identity} :
    session first = session second ↔ first = second :=
  ⟨session_injective, fun same => same ▸ rfl⟩

/-- Two names of bindings are equal exactly if they name one token. -/
@[simp] theorem apiToken_inj {first second : String} :
    apiToken first = apiToken second ↔ first = second := by
  constructor
  · intro same
    -- Behind the mark of bindings the token stands as it is.
    have texts := congrArg String.toList same
    simp only [apiToken, String.toList_append] at texts
    exact String.toList_injective (List.append_cancel_left texts)
  · intro same
    rw [same]

/-- No session has the name of a binding. -/
@[simp] theorem session_ne_apiToken (who : Identity) (token : String) :
    session who ≠ apiToken token := by
  -- The first characters already differ.
  intro same
  have heads := congrArg (fun name : String => name.toList.head?) same
  simp [toList_session, apiToken, tokenMark] at heads

/-- No binding has the name of a session. -/
@[simp] theorem apiToken_ne_session (token : String) (who : Identity) :
    apiToken token ≠ session who :=
  (session_ne_apiToken who token).symm

/-- All characters of an org's mark stand for themselves in a pattern. -/
theorem isPlain_of_mem_orgMark {org : Id} {c : Char} (member : c ∈ (orgMark org).toList) :
    Glob.IsPlain c := by
  have letters : ∀ d ∈ "session:org:".toList ++ ':' :: "user:".toList, Glob.IsPlain d := by
    unfold Glob.IsPlain
    simp
  -- The mark is fixed text around one number, and a number has no wildcard in it.
  rw [toList_orgMark] at member
  rcases List.mem_append.mp member with letter | member
  · exact letters c (List.mem_append_left _ letter)
  · rcases List.mem_append.mp member with number | letter
    · rcases Decimal.mem_write number with digit | minus
      · constructor
        · intro question
          subst question
          simp at digit
        · intro star
          subst star
          simp at digit
      · subst minus
        unfold Glob.IsPlain
        decide
    · exact letters c (List.mem_append_right _ letter)

/-- The pattern of an org accepts the names that open with its mark, unless a star and more follows.
-/
theorem accepts_orgPattern_iff (org : Id) (key : String) :
    Glob.accepts (orgPattern org) key = true ↔
      ∃ rest, key = orgMark org ++ rest ∧ (rest.toList.head? = some '*' → rest = "*") :=
  Glob.accepts_append_star_iff fun _ => isPlain_of_mem_orgMark

/-- A text opens with the mark of one org at most. -/
theorem orgMark_append_inj {first second : Id} {rest others : String}
    (same : orgMark first ++ rest = orgMark second ++ others) : first = second := by
  -- The number of the org stands before the first colon behind what all marks have in common.
  have texts := congrArg String.toList same
  simp only [String.toList_append, toList_orgMark, List.append_assoc, List.cons_append] at texts
  have numbers := List.append_cancel_left texts
  obtain ⟨orgs, -⟩ := append_colon_inj (colon_notMem_write _) (colon_notMem_write _) numbers
  exact Decimal.write_injective (String.toList_injective orgs)

/-- The patterns of two orgs accept no name in common. -/
theorem org_unique {first second : Id} {key : String}
    (accepted : Glob.accepts (orgPattern first) key = true)
    (other : Glob.accepts (orgPattern second) key = true) : first = second := by
  obtain ⟨rest, opened, -⟩ := (accepts_orgPattern_iff first key).mp accepted
  obtain ⟨others, otherOpened, -⟩ := (accepts_orgPattern_iff second key).mp other
  exact orgMark_append_inj (opened.symm.trans otherOpened)

/-- The pattern of an org accepts the name of a session exactly if it is a session of that org. -/
theorem accepts_orgPattern_session (org : Id) (who : Identity) :
    Glob.accepts (orgPattern org) (session who) = true ↔ who.org = org := by
  constructor
  · intro accepted
    -- The mark of the org opens the name, and so does that of the identity's org.
    obtain ⟨rest, opened, -⟩ := (accepts_orgPattern_iff org _).mp accepted
    exact orgMark_append_inj opened
  · intro same
    subst same
    -- The user stands where the star of the pattern does, and no number opens with a star.
    refine (accepts_orgPattern_iff _ _).mpr ⟨Decimal.write who.user, rfl, fun star => ?_⟩
    have member := List.mem_of_mem_head? star
    rcases Decimal.mem_write member with digit | minus
    · simp at digit
    · cases minus

/-- The pattern of an org accepts no binding, whatever the token. -/
theorem accepts_orgPattern_apiToken (org : Id) (token : String) :
    Glob.accepts (orgPattern org) (apiToken token) = false := by
  rw [Bool.eq_false_iff]
  intro accepted
  -- The name would open with the mark of the org, but it opens with that of bindings.
  obtain ⟨rest, opened, -⟩ := (accepts_orgPattern_iff org _).mp accepted
  have heads := congrArg (·.toList.head?) opened
  simp [toList_orgMark, apiToken, tokenMark] at heads

/-- Names are unambiguous. The name of a session tells its org and its user, that of a binding its
token, and no session has the name of a binding. The pattern of an org accepts just the sessions of
that org and no binding, whatever the token holds. -/
theorem names_unambiguous (first second : Identity) (token other : String) (org : Id) :
    (session first = session second ↔ first.org = second.org ∧ first.user = second.user) ∧
      (apiToken token = apiToken other ↔ token = other) ∧
      session first ≠ apiToken token ∧
      (Glob.accepts (orgPattern org) (session first) = true ↔ first.org = org) ∧
      Glob.accepts (orgPattern org) (apiToken token) = false := by
  refine ⟨?_, apiToken_inj, session_ne_apiToken first token,
    accepts_orgPattern_session org first, accepts_orgPattern_apiToken org token⟩
  -- An identity is its two numbers.
  rw [session_inj]
  cases first
  cases second
  simp

/-- Whether a text is the name of a session or of a binding. -/
def IsName (key : String) : Prop :=
  (∃ who, key = session who) ∨ ∃ token, key = apiToken token

theorem isName_session (who : Identity) : IsName (session who) :=
  .inl ⟨who, rfl⟩

theorem isName_apiToken (token : String) : IsName (apiToken token) :=
  .inr ⟨token, rfl⟩

end TenantSessions.Key
