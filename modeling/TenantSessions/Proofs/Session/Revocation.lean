import TenantSessions.Proofs.Session.Tables

/-! A revocation deletes the session of one identity, or the sessions of one org, or nothing where a
command fails. -/

namespace TenantSessions.Punctual

/-- Revoking a session deletes it, unless deletions are made to fail. -/
theorem hold_revoke (shelf : Punctual) (who : Identity) :
    (Session.revoke who).hold shelf =
      if .delete ∈ shelf.failing then
        (.error (.cache (.deletingSession who) (.injected .delete)), shelf)
      else (.ok (), shelf.delete [Key.session who]) := by
  -- There is one command, and its count is thrown away.
  rw [Session.revoke, Dialogue.hold_bind]
  by_cases outage : Command.Kind.delete ∈ shelf.failing
  · rw [if_pos outage, hold_put_of_failing outage]
    rfl
  · have deleted : (Dialogue.put (.delete [Key.session who]) (.deletingSession who)).hold shelf =
        (.ok (shelf.entries.filter fun key _ => key ∈ [Key.session who]).size,
          shelf.delete [Key.session who]) := hold_put_of_ok outage rfl _
    rw [if_neg outage, deleted]
    rfl

/-- Revoking an org deletes its sessions and counts them; where there is none, no deletion is tried.
-/
theorem hold_revokeOrg (shelf : Punctual) (org : Id) :
    (Session.revokeOrg org).hold shelf =
      if .list ∈ shelf.failing then
        (.error (.cache (.listingSessions org) (.injected .list)), shelf)
      else if (shelf.orgKeys org).isEmpty then (.ok 0, shelf)
      else if .delete ∈ shelf.failing then
        (.error (.cache (.deletingSessions org) (.injected .delete)), shelf)
      else
        (.ok (shelf.entries.filter fun key _ => key ∈ shelf.orgKeys org).size,
          shelf.delete (shelf.orgKeys org)) := by
  -- Listing may fail, then there may be nothing to delete, and only then can deleting fail.
  rw [Session.revokeOrg, Dialogue.hold_bind]
  by_cases unlisted : Command.Kind.list ∈ shelf.failing
  · rw [if_pos unlisted, hold_put_of_failing unlisted]
    rfl
  have listed : (Dialogue.put (.list (Key.orgPattern org)) (.listingSessions org)).hold shelf =
      (.ok (shelf.orgKeys org), shelf) := hold_put_of_ok unlisted rfl _
  rw [if_neg unlisted, listed]
  by_cases none : (shelf.orgKeys org).isEmpty
  · simp only [none, if_true]
    rfl
  · simp only [none, Bool.false_eq_true, if_false]
    by_cases outage : Command.Kind.delete ∈ shelf.failing
    · rw [if_pos outage]
      exact hold_put_of_failing outage _
    · rw [if_neg outage]
      exact hold_put_of_ok outage rfl _

/-- Where an org has no session, deleting its sessions deletes nothing. -/
theorem delete_orgKeys_of_isEmpty {shelf : Punctual} {org : Id}
    (none : (shelf.orgKeys org).isEmpty = true) : shelf.delete (shelf.orgKeys org) = shelf := by
  rw [List.isEmpty_iff.mp none, delete_nil]

/-- Where neither listing nor deleting fails, revoking an org deletes and counts its sessions, if it
has any. -/
theorem hold_revokeOrg_of_spared {shelf : Punctual} (listing : .list ∉ shelf.failing)
    (deleting : .delete ∉ shelf.failing) (org : Id) :
    (Session.revokeOrg org).hold shelf =
      (.ok (shelf.orgKeys org).length, shelf.delete (shelf.orgKeys org)) := by
  rw [hold_revokeOrg, if_neg listing, if_neg deleting, size_orgKeys]
  -- Where nothing is selected no deletion is tried, which comes to deleting nothing.
  by_cases none : (shelf.orgKeys org).isEmpty
  · rw [if_pos none, delete_orgKeys_of_isEmpty none, List.isEmpty_iff.mp none]
    rfl
  · rw [if_neg none]

/-- Where nothing fails, revoking an org deletes and counts its sessions, if it has any. -/
theorem hold_revokeOrg_of_sound {shelf : Punctual} (sound : shelf.failing = []) (org : Id) :
    (Session.revokeOrg org).hold shelf =
      (.ok (shelf.orgKeys org).length, shelf.delete (shelf.orgKeys org)) :=
  hold_revokeOrg_of_spared (by simp [sound]) (by simp [sound]) org

end TenantSessions.Punctual
