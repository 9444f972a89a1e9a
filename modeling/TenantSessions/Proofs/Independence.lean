import Mathlib.Data.List.Pairwise
import TenantSessions.Proofs.Cache.Ground
import TenantSessions.Proofs.Chronicle

/-!
Changes that have no identity and no API token in common do not notice each other. They may be asked
for in any order: each is answered as if it were the only one, and the same is left in the end.
-/

namespace TenantSessions

namespace Request

/-- Whether a request asks for a change. -/
def Changes : Request → Prop
  | .create .. => True
  | .revoke _ => True
  | .revokeOrg _ => True
  | _ => False

/-- Whether a request asks for a change to the session of an identity. -/
def Concerns (who : Identity) : Request → Prop
  | .create creator _ _ _ => creator = who
  | .revoke other => other = who
  | .revokeOrg org => who.org = org
  | _ => False

/-- Whether a request asks for an API token to be bound; an empty one is not. -/
def Binds (token : String) : Request → Prop
  | .create _ _ apiToken _ => apiToken ≠ "" ∧ apiToken = token
  | _ => False

/-- The keys that a request for a change sees. -/
def Ground : Request → String → Prop
  | .create who _ apiToken _, key =>
    key = Key.session who ∨ apiToken ≠ "" ∧ key = Key.apiToken apiToken
  | .revoke who, key => key = Key.session who
  | .revokeOrg org, key => Glob.accepts (Key.orgPattern org) key = true
  | _, _ => False

end Request

/-- A key on the ground of a request is the session of an identity that it concerns, the binding of
a token that it binds, or accepted by the pattern of an org all of whose identities it concerns. -/
theorem Request.ground_cases {request : Request} {key : String} (seen : request.Ground key) :
    (∃ who, request.Concerns who ∧ key = Key.session who) ∨
      (∃ token, request.Binds token ∧ key = Key.apiToken token) ∨
      ∃ org, (∀ who : Identity, who.org = org → request.Concerns who) ∧
        Glob.accepts (Key.orgPattern org) key = true := by
  cases request with
  | create who bearer apiToken life =>
    rcases seen with kept | ⟨token, bound⟩
    · exact .inl ⟨who, rfl, kept⟩
    · exact .inr (.inl ⟨apiToken, ⟨token, rfl⟩, bound⟩)
  | revoke who => exact .inl ⟨who, rfl, seen⟩
  | revokeOrg org => exact .inr (.inr ⟨org, fun _ => id, seen⟩)
  | checkBearer => exact absurd seen not_false
  | resolve => exact absurd seen not_false

/-- Whether two requests ask for changes that have no identity and no API token in common. -/
structure Independent (first second : Request) : Prop where
  changes : first.Changes ∧ second.Changes
  identities : ∀ who, first.Concerns who → ¬ second.Concerns who
  tokens : ∀ token, first.Binds token → ¬ second.Binds token

namespace Session

/-- A row of a write and a limit keeps to its key. -/
theorem keepsTo_place {ground : String → Prop} {key : String} (inside : ground key)
    (pairs : List (String × String)) (life : Lifetime) (writing limiting : Stage) :
    (Dialogue.put (.write key pairs) writing >>= fun _ =>
      Dialogue.put (.expire key life) limiting : Dialogue Unit).KeepsTo ground := by
  have sees (other : String) (same : other = key) : ground other := same ▸ inside
  exact .ask sees fun _ _ => .ask sees fun _ _ => .done ()

end Session

/-- A request for a change keeps to its ground. -/
theorem Request.dialogue_keepsTo {request : Request} (changes : request.Changes)
    (bindingLife : Lifetime) : (request.dialogue bindingLife).KeepsTo request.Ground := by
  cases request with
  | create who bearer apiToken life =>
    show (Session.create who bearer apiToken bindingLife life).KeepsTo _
    rw [Session.create_eq]
    cases Session.refusal? who bearer apiToken bindingLife life with
    | some failure => exact .fail failure
    | none =>
      -- The binding is written and limited if there is a token, and then the session.
      show (Session.writes who bearer apiToken bindingLife life).KeepsTo _
      have kept : (Session.keep (.ofTokens who bearer apiToken) life).KeepsTo
          (Ground (.create who bearer apiToken life)) :=
        Session.keepsTo_place (.inl rfl) ..
      unfold Session.writes
      by_cases token : apiToken = ""
      · rw [if_pos token]
        exact kept
      · rw [if_neg token]
        have bound : (Session.bind who apiToken bindingLife).KeepsTo
            (Ground (.create who bearer apiToken life)) :=
          Session.keepsTo_place (.inr ⟨token, rfl⟩) ..
        exact bound.bind fun _ => kept
  | revoke who => exact .ask (fun key named => List.mem_singleton.mp named) fun _ _ => .done ()
  | revokeOrg org =>
    refine .ask (fun _ accepted => accepted) fun keys listed => ?_
    show Dialogue.KeepsTo _ (if List.isEmpty keys then _ else _)
    split
    · exact .done 0
    -- Nothing is deleted but what the pattern of the org accepts.
    · exact .ask listed fun _ _ => .done _
  | checkBearer => exact absurd changes not_false
  | resolve => exact absurd changes not_false

namespace Independent

variable {first second : Request} {key : String}

/-- Independence is mutual. -/
theorem symm (independent : Independent first second) : Independent second first where
  changes := independent.changes.symm
  identities who concerned other := independent.identities who other concerned
  tokens token bound other := independent.tokens token other bound

instance : Std.Symm Independent where
  symm _ _ := symm

/-- The grounds of independent requests have no key in common. -/
theorem apart (independent : Independent first second) (seen : first.Ground key) :
    ¬ second.Ground key := by
  intro other
  -- A key says which identity or token it was made for, or of which org it is.
  rcases Request.ground_cases seen with
    ⟨who, concerned, rfl⟩ | ⟨token, bound, rfl⟩ | ⟨org, whole, accepted⟩
  · rcases Request.ground_cases other with
      ⟨another, also, same⟩ | ⟨token, _, same⟩ | ⟨org, whole, accepted⟩
    · exact independent.identities who concerned (Key.session_injective same ▸ also)
    · exact Key.session_ne_apiToken who token same
    · have member := (Key.accepts_orgPattern_session org who).mp accepted
      exact independent.identities who concerned (whole who member)
  · rcases Request.ground_cases other with
      ⟨who, _, same⟩ | ⟨another, also, same⟩ | ⟨org, _, accepted⟩
    · exact Key.apiToken_ne_session token who same
    · exact independent.tokens token bound (Key.apiToken_inj.mp same ▸ also)
    · rw [Key.accepts_orgPattern_apiToken] at accepted
      cases accepted
  · rcases Request.ground_cases other with
      ⟨who, also, rfl⟩ | ⟨token, _, rfl⟩ | ⟨another, also, acceptedToo⟩
    · have member := (Key.accepts_orgPattern_session org who).mp accepted
      exact independent.identities who (whole who member) also
    · rw [Key.accepts_orgPattern_apiToken] at accepted
      cases accepted
    · have same := Key.org_unique accepted acceptedToo
      exact independent.identities ⟨org, 0⟩ (whole _ rfl) (also _ same)

end Independent

namespace Registrar

/-- Serves requests one after the other, and tells of each what it is answered. -/
def serveAll {σ : Type} [Cache σ] (registrar : Registrar σ) :
    List Request → List Response × Registrar σ
  | [] => ([], registrar)
  | request :: requests =>
    let (answer, next) := registrar.serve request
    let (answers, last) := next.serveAll requests
    (.served request answer :: answers, last)

/-- What a registrar shows over the punctual cache. -/
def punctual (registrar : Registrar Memory) : Registrar Punctual where
  cache := registrar.shelf
  bindingLife := registrar.bindingLife

/-- A registrar over a cache in memory serves as it does over the punctual cache. -/
theorem serve_punctual (registrar : Registrar Memory) (request : Request) :
    registrar.punctual.serve request =
      ((registrar.serve request).1, (registrar.serve request).2.punctual) := by
  have held := registrar.hold_serve request
  show (match (request.dialogue registrar.bindingLife).hold registrar.shelf with
    | (answer, cache) => (answer, { registrar.punctual with cache := cache })) = _
  rw [held]
  rfl

/-- A registrar over a cache in memory serves all requests as it does over the punctual cache. -/
theorem serveAll_punctual (requests : List Request) (registrar : Registrar Memory) :
    registrar.punctual.serveAll requests =
      ((registrar.serveAll requests).1, (registrar.serveAll requests).2.punctual) := by
  -- Each request is answered alike and leaves the same to the next.
  induction requests generalizing registrar with
  | nil => rfl
  | cons request requests ih => simp only [serveAll, serve_punctual, ih]

variable {first second : Request} {requests order : List Request}

/-- Of two independent requests the second is answered as if it came first, and both leave the same
in either order. -/
theorem serve_commute (independent : Independent first second) (registrar : Registrar Punctual) :
    ((registrar.serve first).2.serve second).1 = (registrar.serve second).1 ∧
      ((registrar.serve first).2.serve second).2 = ((registrar.serve second).2.serve first).2 := by
  obtain ⟨answer, left⟩ := Punctual.hold_commute
    (first.dialogue_keepsTo independent.changes.1 registrar.bindingLife)
    (second.dialogue_keepsTo independent.changes.2 registrar.bindingLife)
    (fun _ => independent.apart) registrar.cache
  -- Only the cache changes, so it is enough that both caches are the same.
  exact ⟨answer, congrArg (fun cache => { registrar with cache := cache }) left⟩

/-- What is left when all requests have been served is what each leaves to the next. -/
theorem serveAll_snd (requests : List Request) (registrar : Registrar Punctual) :
    (registrar.serveAll requests).2 =
      requests.foldl (fun registrar request => (registrar.serve request).2) registrar := by
  induction requests generalizing registrar with
  | nil => rfl
  | cons request requests ih => exact ih (registrar.serve request).2

/-- Of requests that are independent in pairs each is answered as if it were the only one. -/
theorem serveAll_fst (independent : requests.Pairwise Independent)
    (registrar : Registrar Punctual) :
    (registrar.serveAll requests).1 =
      requests.map fun request => .served request (registrar.serve request).1 := by
  -- The induction is on the requests; the first one is not noticed by any that follows.
  induction requests generalizing registrar with
  | nil => rfl
  | cons request requests ih =>
    obtain ⟨apart, others⟩ := List.pairwise_cons.mp independent
    have unnoticed : ∀ later ∈ requests,
        Response.served later ((registrar.serve request).2.serve later).1 =
          .served later (registrar.serve later).1 :=
      fun later among => congrArg _ (serve_commute (apart later among) registrar).1
    show .served request (registrar.serve request).1 ::
      ((registrar.serve request).2.serveAll requests).1 = _
    rw [ih others, List.map_congr_left unnoticed]
    rfl

/-- Requests that are independent in pairs leave the same in every order. -/
theorem serveAll_snd_perm (independent : requests.Pairwise Independent)
    (reordered : order.Perm requests) (registrar : Registrar Punctual) :
    (registrar.serveAll order).2 = (registrar.serveAll requests).2 := by
  rw [serveAll_snd, serveAll_snd]
  symm
  refine reordered.symm.foldl_eq' (fun first among second also registrar => ?_) registrar
  -- Two different requests of the list are independent, and one commutes with itself.
  by_cases same : first = second
  · rw [same]
  · exact (serve_commute (independent.forall among also same) registrar).2

/-- Whether two requests are answered alike in either order, and leave the same keys live, with the
same fields and deadlines. -/
structure Commutes (registrar : Registrar Memory) (first second : Request) : Prop where
  firstAnswer : ((registrar.serve second).2.serve first).1 = (registrar.serve first).1
  secondAnswer : ((registrar.serve first).2.serve second).1 = (registrar.serve second).1
  live : ((registrar.serve first).2.serve second).2.cache.live =
    ((registrar.serve second).2.serve first).2.cache.live

/-- Over a cache in memory the second of two independent requests is answered as if it came first,
and both leave the same in either order. -/
theorem serve_commute_punctual (independent : Independent first second)
    (registrar : Registrar Memory) :
    ((registrar.serve first).2.serve second).1 = (registrar.serve second).1 ∧
      ((registrar.serve first).2.serve second).2.punctual =
        ((registrar.serve second).2.serve first).2.punctual := by
  -- Over the punctual cache it is so, and everything is served there as it is here.
  have commuted := serve_commute independent registrar.punctual
  simpa only [serve_punctual] using commuted

/-- Whatever is kept in the cache and whatever is made to fail there, two changes that have no
identity and no API token in common commute while no time passes; and of changes that are so in
pairs, each is answered as if it were the only one, and the same is left in every order. -/
theorem independent_changes_commute (registrar : Registrar Memory) :
    (∀ first second, Independent first second → registrar.Commutes first second) ∧
      ∀ requests order : List Request, requests.Pairwise Independent → order.Perm requests →
        (registrar.serveAll order).1 =
            order.map (fun request => .served request (registrar.serve request).1) ∧
          (registrar.serveAll order).2.cache.live = (registrar.serveAll requests).2.cache.live := by
  refine ⟨fun first second independent => ?_, fun requests order independent reordered => ?_⟩
  -- Either of the two is answered as if it came first, since independence is mutual.
  · obtain ⟨secondAnswer, left⟩ := serve_commute_punctual independent registrar
    obtain ⟨firstAnswer, -⟩ := serve_commute_punctual independent.symm registrar
    exact ⟨firstAnswer, secondAnswer, congrArg (fun left => left.cache.entries) left⟩
  -- The requests are independent in the other order too, and both orders leave the same.
  · have reindependent : order.Pairwise Independent :=
      (reordered.pairwise_iff Independent.symm).mpr independent
    have answers := serveAll_fst reindependent registrar.punctual
    have left := serveAll_snd_perm independent reordered registrar.punctual
    simp only [serve_punctual, serveAll_punctual] at answers left
    exact ⟨answers, congrArg (fun left => left.cache.entries) left⟩

/-- A registrar with a session of one org and one of another whose number looks alike. -/
def neighbours : Registrar Memory :=
  (((new Memory.empty none).serve (.create ⟨8, 1⟩ "jwt" "eight" (.ofSeconds 3600))).2.serve
    (.create ⟨88, 1⟩ "jwt" "" (.ofSeconds 3600))).2

/-- A session is created while one org is revoked, and so is the session of a third. -/
def bustle : List Request :=
  [.revokeOrg 8, .create ⟨9, 8⟩ "jwt" "nine" (.ofSeconds 60), .revoke ⟨88, 1⟩]

/-- A session is created before an org is revoked or after that, and three changes in a row leave
the same when they are made backwards, the last one being answered as if nothing had come before. -/
theorem independent_changes_commute_neighbours :
    (neighbours.serve (.checkBearer ⟨8, 1⟩ "jwt")).1 = .ok () ∧
      neighbours.Commutes (.revokeOrg 8) (.create ⟨9, 8⟩ "jwt" "nine" (.ofSeconds 60)) ∧
      (neighbours.serveAll bustle.reverse).2.cache.live =
        (neighbours.serveAll bustle).2.cache.live ∧
      (neighbours.serveAll bustle.reverse).1.getLast? =
        some (.served (.revokeOrg 8) (neighbours.serve (.revokeOrg 8)).1) := by
  have revokeCreate : Independent (.revokeOrg 8) (.create ⟨9, 8⟩ "jwt" "nine" (.ofSeconds 60)) :=
    ⟨⟨trivial, trivial⟩, by rintro _ org rfl; simp [Request.Concerns] at org,
      by simp [Request.Binds]⟩
  have revokeBoth : Independent (.revokeOrg 8) (.revoke ⟨88, 1⟩) :=
    ⟨⟨trivial, trivial⟩, by rintro _ org rfl; simp [Request.Concerns] at org,
      by simp [Request.Binds]⟩
  have createRevoke : Independent (.create ⟨9, 8⟩ "jwt" "nine" (.ofSeconds 60))
      (.revoke ⟨88, 1⟩) :=
    ⟨⟨trivial, trivial⟩, by simp [Request.Concerns], by simp [Request.Binds]⟩
  have pairwise : bustle.Pairwise Independent := by
    simp [bustle, revokeCreate, revokeBoth, createRevoke]
  obtain ⟨pairs, lists⟩ := independent_changes_commute neighbours
  obtain ⟨answers, left⟩ := lists bustle _ pairwise (List.reverse_perm _)
  exact ⟨rfl, pairs _ _ revokeCreate, left, by rw [answers]; rfl⟩

end Registrar

end TenantSessions
