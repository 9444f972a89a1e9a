import Mathlib.Data.Set.List
import TenantSessions.Proofs.Orderly

/-!
Revoking an org is revoking each of its users who has a session: the same keys are left, the users
are counted once each, and nobody else and no binding is touched.
-/

namespace TenantSessions

namespace Punctual

/-- The names that an org's pattern selects in a tidy cache are the sessions of users. -/
theorem Tidy.orgKeys_eq_map {shelf : Punctual} (tidy : shelf.Tidy) (org : Id) :
    ∃ users : List Id, shelf.orgKeys org = users.map fun user => Key.session ⟨org, user⟩ := by
  have named : ∀ key ∈ shelf.orgKeys org,
      key ∈ Set.range fun user => Key.session ⟨org, user⟩ := by
    intro key selected
    obtain ⟨who, rfl, rfl, -⟩ := tidy.mem_orgKeys selected
    exact ⟨who.user, rfl⟩
  -- A list of names each of which is made from a user is made from a list of users.
  have listed : shelf.orgKeys org ∈ Set.range (List.map fun user => Key.session ⟨org, user⟩) := by
    rw [Set.range_list_map]
    exact named
  obtain ⟨users, same⟩ := listed
  exact ⟨users, same.symm⟩

end Punctual

namespace Registrar

/-- The revocations of users of an org, one after the other. -/
def revocations (org : Id) (users : List Id) : List Incident :=
  users.map fun user => .event (.serve (.revoke ⟨org, user⟩))

variable {registrar : Registrar Memory}

/-- Revocations one after the other delete the sessions that they name. -/
theorem undergoAll?_revocations (deleting : .delete ∉ registrar.shelf.failing) (org : Id)
    (users : List Id) :
    ∃ later, registrar.undergoAll? (revocations org users) = some later ∧
      later.shelf = registrar.shelf.delete (users.map fun user => Key.session ⟨org, user⟩) := by
  -- The induction is on the users; a revocation leaves all commands as able as they were.
  induction users generalizing registrar with
  | nil =>
    refine ⟨registrar, rfl, ?_⟩
    rw [List.map_nil, Punctual.delete_nil]
  | cons user users ih =>
    have left : (registrar.serve (.revoke ⟨org, user⟩)).2.shelf =
        registrar.shelf.delete [Key.session ⟨org, user⟩] := by
      have held := registrar.hold_serve (.revoke ⟨org, user⟩)
      rw [Request.dialogue, Punctual.hold_revoke, if_neg deleting] at held
      exact (Prod.mk.inj held).2.symm
    have able : Command.Kind.delete ∉
        (registrar.serve (.revoke ⟨org, user⟩)).2.shelf.failing := by
      rw [left]
      exact deleting
    obtain ⟨later, undergone, deleted⟩ := ih able
    refine ⟨later, undergone, ?_⟩
    rw [deleted, left, Punctual.delete_delete]
    rfl

/-- A revocation of an org, where its commands are not made to fail, leaves just what is left when
each user of the org who has a session is revoked, in whatever order; it answers how many these are.
The sessions of all other orgs and all bindings stay as they are, and revoking the org again at once
finds nobody. -/
theorem orgRevocation_exact {bindingLife : Option Lifetime} {past : List Moment}
    (chronicle : Chronicle bindingLife past registrar) (org : Id)
    (listing : .list ∉ registrar.cache.failing) (deleting : .delete ∉ registrar.cache.failing) :
    ∃ users : List Id, users.Nodup ∧
      (∀ user, user ∈ users ↔ (registrar.cache.live[Key.session ⟨org, user⟩]?).isSome) ∧
      (registrar.serve (.revokeOrg org)).1 = .ok users.length ∧
      (∀ order : List Id, (∀ user, user ∈ order ↔ user ∈ users) →
        ∃ later, registrar.undergoAll? (revocations org order) = some later ∧
          (registrar.serve (.revokeOrg org)).2.cache.live = later.cache.live) ∧
      (∀ who : Identity, who.org ≠ org →
        (registrar.serve (.revokeOrg org)).2.cache.live[Key.session who]? =
          registrar.cache.live[Key.session who]?) ∧
      (∀ apiToken, (registrar.serve (.revokeOrg org)).2.cache.live[Key.apiToken apiToken]? =
        registrar.cache.live[Key.apiToken apiToken]?) ∧
      ((registrar.serve (.revokeOrg org)).2.serve (.revokeOrg org)).1 = .ok 0 := by
  have held := registrar.hold_serve (.revokeOrg org)
  rw [Request.dialogue, Punctual.hold_revokeOrg_of_spared listing deleting] at held
  obtain ⟨answer, left⟩ := Prod.mk.inj held
  obtain ⟨users, named⟩ := chronicle.orderly.tidy.orgKeys_eq_map org
  refine ⟨users, ?_, fun user => ?_, ?_, fun order same => ?_, fun who other => ?_,
    fun apiToken => ?_, ?_⟩
  · have once := registrar.shelf.nodup_orgKeys org
    rw [named] at once
    exact List.Pairwise.of_map _ (fun _ _ different same => different (same ▸ rfl)) once
  · -- A user is listed if the name of the session is selected, and that depends on its being there.
    have listed : user ∈ users ↔ Key.session ⟨org, user⟩ ∈ registrar.shelf.orgKeys org := by
      rw [named, List.mem_map]
      simp
    rw [listed, registrar.shelf.session_mem_orgKeys]
    exact and_iff_right rfl
  · rw [← answer, named, List.length_map]
  · obtain ⟨later, undergone, deleted⟩ := undergoAll?_revocations deleting org order
    -- Both delete the same names, and it does not matter in which order or how often.
    have alike : (registrar.serve (.revokeOrg org)).2.shelf = later.shelf := by
      rw [← left, deleted, named]
      refine Punctual.delete_congr (fun key => ?_) _
      simp only [List.mem_map, same]
    exact ⟨later, undergone, congrArg Punctual.entries alike⟩
  · have kept := registrar.shelf.session?_delete_orgKeys who org
    rw [left, if_neg other] at kept
    exact kept
  · have kept := registrar.shelf.binding?_delete_orgKeys apiToken org
    rw [left] at kept
    exact kept
  -- The second revocation finds the same commands able, and nobody left to select.
  · have again := (registrar.serve (.revokeOrg org)).2.hold_serve (.revokeOrg org)
    rw [← left, Request.dialogue, Punctual.hold_revokeOrg_of_spared listing deleting,
      Punctual.orgKeys_delete_orgKeys] at again
    exact (Prod.mk.inj again).1.symm

/-- Sessions of three orgs whose numbers look alike, and of which one org is to be revoked; the
tokens look like patterns, and one session cannot be limited. -/
def crowd : List Incident :=
  [.event (.serve (.create ⟨1, 5⟩ "jwt" "session:org:1:user:*" (.ofSeconds 3600))),
    .event (.serve (.create ⟨12, 5⟩ "jwt" "*" (.ofSeconds 3600))),
    .event (.serve (.create ⟨-1, 5⟩ "jwt" "" (.ofSeconds 3600))),
    .fail .expire, .event (.serve (.create ⟨1, -5⟩ "jwt" "" (.ofSeconds 3600))), .heal]

/-- Of three orgs whose numbers look alike one is revoked: its users are counted, and those of the
others keep their sessions. -/
theorem orgRevocation_exact_crowd :
    ∃ registrar : Registrar Memory, (new Memory.empty none).undergoAll? crowd = some registrar ∧
      ∃ users : List Id, 5 ∈ users ∧ -5 ∈ users ∧
        (registrar.serve (.revokeOrg 1)).1 = .ok users.length ∧
        (registrar.serve (.revokeOrg 1)).2.cache.live[Key.session ⟨12, 5⟩]?.isSome ∧
        (registrar.serve (.revokeOrg 1)).2.cache.live[Key.session ⟨-1, 5⟩]?.isSome := by
  have fresh : Chronicle none [] (new Memory.empty none) := .start
  obtain ⟨past, chronicle⟩ := fresh.undergoAll? (rfl : undergoAll? _ crowd = some _)
  obtain ⟨users, -, listed, answer, -, others, -, -⟩ :=
    orgRevocation_exact chronicle 1 (by decide) (by decide)
  refine ⟨_, rfl, users, (listed 5).mpr ?_, (listed (-5)).mpr ?_, answer, ?_, ?_⟩
  · rw [Memory.getElem?_live]
    rfl
  · rw [Memory.getElem?_live]
    rfl
  · rw [others ⟨12, 5⟩ (by decide), Memory.getElem?_live]
    rfl
  · rw [others ⟨-1, 5⟩ (by decide), Memory.getElem?_live]
    rfl

end Registrar

end TenantSessions
